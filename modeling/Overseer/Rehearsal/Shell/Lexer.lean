/-
Overseer.Rehearsal.Shell.Lexer — the words and marks of a script.

Quotes are resolved here: a word comes out as parts of which each knows whether
it was quoted. Scripts that stand inside of words are read by a reader that is
handed in, since they are made of commands. Fuel bounds how many parts and
characters are read; there is one for every character at least.
-/
import Overseer.Rehearsal.Shell.Escape
import Overseer.Rehearsal.Shell.Source

namespace Overseer.Rehearsal.Shell

open Arithmetic (leadingNumber)

/-- A word, a mark between commands, or a redirection, whose target comes next
unless it is a document. -/
inductive Token where
  | word (parts : Word)
  | mark (text : String)
  | lineEnd
  | scriptEnd
  | redirect (descriptor : Option Nat) (opening : Opening)
  | document (redirect : Redirect)

/-- May begin the name of a variable. -/
def isNameStart (c : Char) : Bool := c.isAlpha || c == '_'

/-- May stand in the name of a variable. -/
def isNameChar (c : Char) : Bool := c.isAlphanum || c == '_'

/-- The text can be the name of a variable. -/
def isName (text : String) : Bool :=
  match text.toList with
  | c :: cs => isNameStart c && cs.all isNameChar
  | [] => false

/-- Names by one character what the shell itself knows. -/
def isSpecialName (c : Char) : Bool := ['?', '$', '!', '#', '@', '*', '-'].contains c || c.isDigit

/-- Ends a word. -/
def endsWord (c : Char) : Bool := [' ', '\t', '\n', ';', '&', '|', '(', ')', '<', '>'].contains c

/-! ## 1. Parts of words -/

/-- Where parts are read: what ends them, and what is quoted there. -/
inductive Place where
  | word
  | string
  | document
  | braces (quoted inString : Bool)
  | sum (depth : Nat)
deriving DecidableEq

namespace Place

/-- Characters are quoted there. -/
def isQuoted : Place → Bool
  | .word | .braces false _ => false
  | _ => true

/-- A string stands around. -/
def isInString : Place → Bool
  | .string => true
  | .braces _ inString => inString
  | _ => false

/-- A backslash quotes the character there; elsewhere it stands for itself. -/
def escapes (p : Place) (c : Char) : Bool :=
  match p with
  | .word | .braces false _ => true
  | .string | .sum _ => ['$', Char.ofNat 96, '\\', '"'].contains c
  | .document => ['$', Char.ofNat 96, '\\'].contains c
  | .braces true _ => ['$', Char.ofNat 96, '\\', '"', '\x7d'].contains c

end Place

/-- Adds a character to parts, the latest of which stands first. -/
def addChar (quoted : Bool) (c : Char) (done : Word) : Word :=
  match quoted, done with
  | true, .quoted text :: rest => .quoted (text.push c) :: rest
  | false, .plain text :: rest => .plain (text.push c) :: rest
  | true, _ => .quoted (String.singleton c) :: done
  | false, _ => .plain (String.singleton c) :: done

/-- Adds a quoted text to parts, the latest of which stands first. -/
def addQuoted (cs : List Char) (done : Word) : Word :=
  cs.foldl (fun done c => addChar true c done) (match done with
    | .quoted _ :: _ => done
    | _ => .quoted "" :: done)

/-- Adds the parts of a string; values that are named at once leave nothing if there are none. -/
def addString (parts done : Word) : Word :=
  match parts with
  | [.value "@" .asIs true] => parts ++ done
  | _ => parts.reverse ++ .quoted "" :: done

/-- The text up to the next grave accent, where a backslash quotes some characters. -/
def readGrave (inString : Bool) : Nat → Reading (List Char)
  | 0 => Reading.refuse "EOF in backquote substitution"
  | fuel + 1 => do
    match ← Reading.rest with
    | [] => Reading.refuse "EOF in backquote substitution"
    | '\\' :: '\n' :: _ =>
      Reading.skip 2
      readGrave inString fuel
    | '\\' :: c :: _ =>
      Reading.skip 2
      let text ← readGrave inString fuel
      if c = Char.ofNat 96 ∨ c = '\\' ∨ c = '$' ∨ (c = '"' ∧ inString) then return c :: text
      return '\\' :: c :: text
    | c :: _ =>
      Reading.skip 1
      if c = Char.ofNat 96 then return []
      return c :: (← readGrave inString fuel)

/-- The name that begins what stands in braces, and whether the length of its
value is asked for; no name if none can be read. -/
def readBracedName : Reading (Option String × Bool) := do
  match ← Reading.peek? with
  | none => return (none, false)
  | some c =>
    if isNameStart c then return (some (String.ofList (← Reading.takeAll isNameChar)), false)
    else if c.isDigit then return (some (String.ofList (← Reading.takeAll Char.isDigit)), false)
    else if c = '\x7d' then return (none, false)
    else
      Reading.skip 1
      if c ≠ '#' then return (if isSpecialName c then some (String.singleton c) else none, false)
      match ← Reading.peek? with
      | none => return (some "#", false)
      | some d =>
        if isNameStart d then return (some (String.ofList (← Reading.takeAll isNameChar)), true)
        else if d.isDigit then return (some (String.ofList (← Reading.takeAll Char.isDigit)), true)
        else
          let before ← get
          Reading.skip 1
          if d ≠ '\x7d' ∧ (← Reading.peek?) = some '\x7d' then
            return (if isSpecialName d then some (String.singleton d) else none, true)
          set before
          return (some "#", false)

/-- What is to be done about the value, as the characters behind its name say;
where it takes a word, the word is read as parts in the place given. -/
inductive Asked where
  | nothing
  | word (make : Word → Treatment) (quotesKept : Bool)

/-- Reads what is to be done about a value. -/
def readAsked (length : Bool) : Reading Asked := do
  let unknown : Asked := .word (fun _ => .unknown) true
  if length then
    return if (← Reading.peek?) = some '\x7d' then .word (fun _ => .length) true else unknown
  let c? ← Reading.next?
  let orEmpty := c? = some ':'
  let c? ← if orEmpty then Reading.next? else pure c?
  match c? with
  | some '\x7d' => return .nothing
  | some '-' => return .word (.instead orEmpty) true
  | some '=' => return .word (.assign orEmpty) true
  | some '?' => return .word (.demand orEmpty) true
  | some '+' => return .word (.ifSet orEmpty) true
  | some c =>
    if orEmpty ∨ (c ≠ '#' ∧ c ≠ '%') then return unknown
    let longest := (← Reading.peek?) = some c
    if longest then Reading.skip 1
    return .word (if c = '#' then .dropFront longest else .dropBack longest) false
  | none => return unknown

/-- The reader of scripts that stand inside of words: up to a parenthesis that
is taken as well, or up to the end. -/
abbrev Inner := Bool → Reading Command

mutual

/-- Reads parts until what ends them; `done` holds those read before, latest first. -/
def readParts (inner : Inner) : Nat → Place → Word → Reading Word
  | 0, _, done => return done.reverse
  | fuel + 1, place, done => do
    let quoted := place.isQuoted
    match ← Reading.rest with
    | [] =>
      match place with
      | .word | .document => return done.reverse
      | .sum _ => Reading.refuse "Missing '))'"
      | place => Reading.refuse (if place.isInString || place = .string then
          "Unterminated quoted string" else "Missing '\x7d'")
    | '\\' :: '\n' :: _ =>
      Reading.skip 2
      readParts inner fuel place done
    | ['\\'] =>
      Reading.skip 1
      readParts inner fuel place (addChar true '\\' done)
    | '\\' :: c :: _ =>
      Reading.skip 2
      readParts inner fuel place (if place.escapes c then addQuoted [c] done
        else addChar quoted c (addChar quoted '\\' done))
    | '$' :: _ =>
      Reading.skip 1
      match ← readDollar inner fuel place with
      | some part => readParts inner fuel place (part :: done)
      | none => readParts inner fuel place (addChar quoted '$' done)
    | c :: cs =>
      if c = Char.ofNat 96 then
        Reading.skip 1
        let text ← readGrave place.isInString (cs.length + 1)
        let after ← get
        set { after with rest := text, line := 1, skipped := 0, inUse := [] }
        let script ← inner false
        set after
        readParts inner fuel place (.output script quoted :: done)
      else if c = '\'' ∧ !quoted then
        let text := cs.takeWhile (· != '\'')
        Reading.skip (text.length + 1)
        if (← Reading.rest).isEmpty then Reading.refuse "Unterminated quoted string"
        Reading.skip 1
        readParts inner fuel place (addQuoted text done)
      else if c = '"' ∧ (place = .string ∨ !quoted) then
        Reading.skip 1
        if place = .string then return done.reverse
        let parts ← readParts inner fuel .string []
        readParts inner fuel place (addString parts done)
      else
        let goOn (place : Place) : Reading Word := do
          Reading.skip 1
          readParts inner fuel place (addChar quoted c done)
        match place with
        | .word =>
          if endsWord c then return done.reverse
          else goOn place
        | .braces _ _ =>
          if c = '\x7d' then
            Reading.skip 1
            return done.reverse
          else if c = '"' then
            Reading.skip 1
            readParts inner fuel place done
          else goOn place
        | .sum depth =>
          if c = '(' then goOn (.sum (depth + 1))
          else if c = ')' ∧ depth > 0 then goOn (.sum (depth - 1))
          else if c = ')' ∧ cs.head? = some ')' then
            Reading.skip 2
            return done.reverse
          else goOn place
        | _ => goOn place

/-- Reads what a dollar stands for; the dollar itself is already taken. -/
def readDollar (inner : Inner) : Nat → Place → Reading (Option Part)
  | 0, _ => return none
  | fuel + 1, place => do
    let quoted := place.isQuoted
    match ← Reading.peek? with
    | some '(' =>
      Reading.skip 1
      if (← Reading.peek?) = some '(' then
        Reading.skip 1
        return some (.number (← readParts inner fuel (.sum 0) []) quoted)
      else return some (.output (← inner true) quoted)
    | some '\x7b' =>
      Reading.skip 1
      let (name?, length) ← readBracedName
      let place (quoted : Bool) : Place := .braces quoted place.isInString
      match name? with
      | none =>
        let _ ← readParts inner fuel (place quoted) []
        return some (.value "" .unknown quoted)
      | some name =>
        match ← readAsked length with
        | .nothing => return some (.value name .asIs quoted)
        | .word make quotesKept =>
          let parts ← readParts inner fuel (place (quoted && quotesKept)) []
          return some (.value name (make parts) quoted)
    | some c =>
      if isNameStart c then
        return some (.value (String.ofList (← Reading.takeAll isNameChar)) .asIs quoted)
      else if isSpecialName c then
        Reading.skip 1
        return some (.value (String.singleton c) .asIs quoted)
      else return none
    | none => return none

end

/-! ## 2. Tokens -/

/-- The marks, longer ones first. -/
def marks : List String := ["&&", "||", ";;", ";", "&", "|", "(", ")"]

/-- The redirections, longer ones first. -/
def openings : List (String × Opening) :=
  [(">>", .extend), (">&", .copy), (">|", .overwrite), (">", .write), ("<<", .document),
   ("<&", .copy), ("<>", .readWrite), ("<", .read)]

/-- The descriptor that a redirection means by itself. -/
def usualDescriptor (sign : String) : Nat := if sign.startsWith ">" then 1 else 0

/-- The text of a word without its quotes, if nothing in it stands for a value. -/
def fixedText (word : Word) : String :=
  String.join (word.map fun
    | .plain text | .quoted text => text
    | _ => "")

/-- Some of the word was quoted. -/
def isQuotedWord (word : Word) : Bool :=
  word.any fun
    | .quoted _ => true
    | _ => false

/-- Reads a document; the sign is already taken. -/
def readDocument (inner : Inner) (descriptor : Nat) : Reading Token := do
  let tabs := (← Reading.peek?) = some '-'
  if tabs then Reading.skip 1
  let _ ← Reading.takeAll fun c => c == ' ' || c == '\t'
  match ← Reading.peek? with
  | none => return .redirect (some descriptor) .document
  | some c =>
    if endsWord c then return .redirect (some descriptor) .document
    let delimiter ← readParts inner ((← Reading.rest).length + 2) .word []
    let before ← get
    let text ← Reading.document tabs (fixedText delimiter).toList
    if isQuotedWord delimiter then
      return .document (.to descriptor .document [.quoted (String.ofList text)])
    let after ← get
    set { after with rest := text, line := before.line + 1 + before.skipped, skipped := 0 }
    let body ← readParts inner (text.length + 2) .document []
    set after
    return .document (.to descriptor .document (.quoted "" :: body))

/-- The next token. -/
def nextToken (inner : Inner) : Reading Token := do
  let _ ← Reading.takeAll fun c => c == ' ' || c == '\t'
  let cs ← Reading.rest
  let cs ← if cs.head? = some '#' then
      Reading.skip (cs.takeWhile (· != '\n')).length
      Reading.rest
    else pure cs
  let digits := cs.takeWhile Char.isDigit
  let front := cs.drop digits.length
  let isLed := digits.length = 1 && front.head?.any fun c => c == '<' || c == '>'
  let digit? := if isLed then some (leadingNumber 10 digits.length digits).1 else none
  let front := if isLed then front else cs
  match openings.find? fun o => o.1.toList.isPrefixOf front with
  | some (sign, opening) =>
    Reading.skip (sign.length + if isLed then digits.length else 0)
    if opening = .document then readDocument inner (digit?.getD 0)
    else return .redirect (some (digit?.getD (usualDescriptor sign))) opening
  | none =>
    match cs with
    | [] => return .scriptEnd
    | '\n' :: _ =>
      Reading.skip 1
      return .lineEnd
    | _ =>
      match marks.find? fun m => m.toList.isPrefixOf cs with
      | some text =>
        Reading.skip text.length
        return .mark text
      | none => return .word (← readParts inner (2 * cs.length + 2) .word [])

end Overseer.Rehearsal.Shell
