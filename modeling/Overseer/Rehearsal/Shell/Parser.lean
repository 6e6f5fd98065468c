/-
Overseer.Rehearsal.Shell.Parser — the commands of a script.

A script is read one line of commands at a time, so that what stands before a
fault is done before the fault is found. One token is read ahead, but none
beyond the end of the line. Every reader takes fuel; the fuel given by
`parseLine` is more than any script of so many characters can use.
-/
import Overseer.Rehearsal.Shell.Lexer

namespace Overseer.Rehearsal.Shell

/-! ## 1. Tokens -/

/-- Reading with one token ahead. -/
abbrev Parsing := StateT (Option Token) Reading

/-- The text of a token that is a word without quotes and values. -/
def Token.bare? : Token → Option String
  | .word [.plain text] => some text
  | _ => none

/-- Words at which a list of commands ends. -/
def closingWords : List String := ["then", "else", "elif", "fi", "do", "done", "esac", "\x7d"]

/-- Words that are no names of commands. -/
def reservedWords : List String :=
  closingWords ++ ["if", "while", "until", "for", "case", "in", "\x7b", "!"]

/-- The reserved word that a token is. -/
def Token.reserved? (t : Token) : Option String := t.bare?.filter reservedWords.contains

/-- A token as messages name it; reserved words only where they are known as such. -/
def Token.label (reserved : Bool) (t : Token) : String :=
  match t with
  | .scriptEnd => "end of file"
  | .lineEnd => "newline"
  | .mark text => s!"\"{text}\""
  | .redirect .. | .document _ => "redirection"
  | .word _ =>
    match t.reserved? with
    | some text => if reserved then s!"\"{text}\"" else "word"
    | none => "word"

/-- A list of commands ends before this token. -/
def Token.closesList : Token → Bool
  | .scriptEnd | .mark ")" | .mark ";;" => true
  | t => t.bare?.any closingWords.contains

/-- The token cannot come here. -/
def refuseToken {α : Type} (t : Token) (expected : Option String) (reserved : Bool) :
    Parsing α :=
  let unexpected := t.label reserved ++ " unexpected"
  StateT.lift (Reading.refuse (match expected with
    | some e => unexpected ++ " (expecting " ++ e ++ ")"
    | none => unexpected))

/-- Takes the token that was read ahead. -/
def takeToken : Parsing Unit := set (none : Option Token)

/-- The line at the end of the token that was read ahead. -/
def currentLine : Parsing Nat := StateT.lift Reading.line

/-- How a list of commands ends. -/
inductive Ending where
  /-- With its line. -/
  | line
  /-- Before a token that closes it; it holds a command at least. -/
  | closing
  /-- Before a token that closes it, and it may be empty. -/
  | maybeEmpty
deriving DecidableEq

/-- A word with characters in front. -/
def withFront (cs : List Char) (word : Word) : Word :=
  if cs.isEmpty then word else .plain (String.ofList cs) :: word

/-- A word as a setting of a variable. -/
def setting? : Word → Option Setting
  | .plain text :: parts =>
    let name := text.toList.takeWhile isNameChar
    match text.toList.drop name.length with
    | '=' :: value =>
      if name.head?.any isNameStart then
        some (.of (String.ofList name) (withFront value parts))
      else none
    | _ => none
  | _ => none

/-- Leads the descriptors of a command elsewhere. -/
def Command.withRedirects (line : Nat) (body : Command) (redirects : List Redirect) : Command :=
  if redirects.isEmpty then body
  else match body with
    | .inner line body _ => .inner line body redirects
    | _ => .grouped line body redirects

/-- The words that are special to the shell, by which no function can be named. -/
def specialNames : List String :=
  [".", ":", "break", "continue", "eval", "exec", "exit", "export", "local", "readonly", "return",
   "set", "shift", "times", "trap", "unset"]

/-- One command after another. -/
def Command.andThen : Command → Command → Command
  | .nothing, second => second
  | first, second => .chain first second

/-! ## 2. Commands -/

mutual

/-- The reader of scripts inside of words. -/
def readInner : Nat → Inner
  | 0, _ => return .nothing
  | fuel + 1, closing => do
    let (body, next?) ← (parseList fuel .maybeEmpty .nothing).run none
    if closing then
      match next? with
      | some (.mark ")") => return body
      | some t => (refuseToken t (some "\")\"") true).run' none
      | none => return body
    else return body

/-- The next token, which is read ahead. -/
def peekToken : Nat → Parsing Token
  | 0 => return .scriptEnd
  | fuel + 1 => do
    match ← get with
    | some t => return t
    | none =>
      let t ← StateT.lift (nextToken (readInner fuel))
      set (some t)
      return t

/-- The next token behind the ends of lines. -/
def peekBeyond : Nat → Parsing Token
  | 0 => return .scriptEnd
  | fuel + 1 => do
    match ← peekToken fuel with
    | .lineEnd =>
      takeToken
      peekBeyond fuel
    | t => return t

/-- The next token where a command begins, behind the texts of words that stand for them. -/
def peekCommand : Nat → Parsing Token
  | 0 => return .scriptEnd
  | fuel + 1 => do
    let t ← peekToken fuel
    match t.bare? with
    | none => return t
    | some word =>
      if t.reserved?.isSome then return t
      else if ← StateT.lift (Reading.openAlias word) then
        takeToken
        peekCommand fuel
      else return t

/-- Takes a reserved word that has to come next. -/
def expectWord : Nat → String → Parsing Unit
  | 0, _ => return
  | fuel + 1, text => do
    let t ← peekBeyond fuel
    if t.bare? = some text then takeToken
    else refuseToken t (some s!"\"{text}\"") true

/-- Commands up to the end of the list, behind one that was read. -/
def parseList : Nat → Ending → Command → Parsing Command
  | 0, _, done => return done
  | fuel + 1, ending, done => do
    let t ← if ending = .line then peekToken fuel else peekBeyond fuel
    match t with
    | .lineEnd =>
      takeToken
      return done
    | .scriptEnd =>
      if ending = .closing then refuseToken t none true else return done
    | _ =>
      if ending = .maybeEmpty && t.closesList then return done
      let command ← parseAndOr fuel
      let goOn (command : Command) : Parsing Command :=
        parseList fuel (if ending = .line then .line else .maybeEmpty) (done.andThen command)
      match ← peekToken fuel with
      | .mark "&" =>
        takeToken
        goOn (.background command)
      | .mark ";" =>
        takeToken
        goOn command
      | .lineEnd | .scriptEnd => goOn command
      | t => if ending = .line then refuseToken t none true else return done.andThen command

/-- Pipes that depend on each other's success. -/
def parseAndOr : Nat → Parsing Command
  | 0 => return .nothing
  | fuel + 1 => do parseAndOrFrom fuel (← parsePipe fuel)

/-- Goes on behind a pipe. -/
def parseAndOrFrom : Nat → Command → Parsing Command
  | 0, first => return first
  | fuel + 1, first => do
    match ← peekToken fuel with
    | .mark "&&" =>
      takeToken
      let _ ← peekBeyond fuel
      parseAndOrFrom fuel (.both first (← parsePipe fuel))
    | .mark "||" =>
      takeToken
      let _ ← peekBeyond fuel
      parseAndOrFrom fuel (.either first (← parsePipe fuel))
    | _ => return first

/-- Commands that are joined by pipes. -/
def parsePipe : Nat → Parsing Command
  | 0 => return .nothing
  | fuel + 1 => do
    let negated := (← peekToken fuel).bare? = some "!"
    if negated then takeToken
    let commands ← parsePipeFrom fuel (← parseCommand fuel)
    let pipe := match commands with
      | [command] => command
      | commands => .piped commands
    return if negated then .negated pipe else pipe

/-- A command with those behind it in a pipe. -/
def parsePipeFrom : Nat → Command → Parsing (List Command)
  | 0, first => return [first]
  | fuel + 1, first => do
    match ← peekToken fuel with
    | .mark "|" =>
      takeToken
      let _ ← peekBeyond fuel
      return first :: (← parsePipeFrom fuel (← parseCommand fuel))
    | _ => return [first]

/-- One command. -/
def parseCommand : Nat → Parsing Command
  | 0 => return .nothing
  | fuel + 1 => do
    let t ← peekCommand fuel
    let line ← currentLine
    let finish (body : Command) : Parsing Command := do
      return body.withRedirects line (← parseRedirects fuel)
    match t with
    | .mark "(" =>
      takeToken
      let body ← parseList fuel .closing .nothing
      expectMark fuel ")"
      finish (.inner line body [])
    | .redirect .. | .document _ => parseSimple fuel line [] [] []
    | .word _ =>
      match t.reserved? with
      | none => parseSimple fuel line [] [] []
      | some "\x7b" =>
        takeToken
        let body ← parseList fuel .closing .nothing
        expectWord fuel "\x7d"
        finish (.grouped line body [])
      | some "if" =>
        takeToken
        finish (← parseIf fuel)
      | some "while" =>
        takeToken
        let condition ← parseList fuel .closing .nothing
        finish (.loop true condition (← parseDo fuel))
      | some "until" =>
        takeToken
        let condition ← parseList fuel .closing .nothing
        finish (.loop false condition (← parseDo fuel))
      | some "for" =>
        takeToken
        finish (← parseFor fuel line)
      | some "case" =>
        takeToken
        let subject ← match ← peekToken fuel with
          | .word parts => pure parts
          | t => refuseToken t (some "word") false
        takeToken
        expectWord fuel "in"
        finish (.distinguish line subject (← parseArms fuel))
      | some _ => refuseToken t none true
    | _ => refuseToken t none true

/-- Takes a mark that has to come next. -/
def expectMark : Nat → String → Parsing Unit
  | 0, _ => return
  | fuel + 1, text => do
    match ← peekToken fuel with
    | .mark m => if m = text then takeToken else refuseToken (.mark m) (some s!"\"{text}\"") true
    | t => refuseToken t (some s!"\"{text}\"") true

/-- The target of a redirection. -/
def parseTarget : Nat → Parsing Word
  | 0 => return []
  | fuel + 1 => do
    match ← peekToken fuel with
    | .word parts =>
      takeToken
      return parts
    | t => refuseToken t none false

/-- Redirections, as many as there are. -/
def parseRedirects : Nat → Parsing (List Redirect)
  | 0 => return []
  | fuel + 1 => do
    match ← peekToken fuel with
    | .redirect descriptor opening =>
      takeToken
      let target ← parseTarget fuel
      return .to (descriptor.getD 0) opening target :: (← parseRedirects fuel)
    | .document r =>
      takeToken
      return r :: (← parseRedirects fuel)
    | _ => return []

/-- The settings, words and redirections of a simple command, behind those that
were read, the latest of which stand first; or a function. -/
def parseSimple : Nat → Nat → List Setting → List Word → List Redirect → Parsing Command
  | 0, _, _, _, _ => return .nothing
  | fuel + 1, line, settings, words, redirects => do
    match ← if words.isEmpty then peekCommand fuel else peekToken fuel with
    | .word parts =>
      takeToken
      match setting? parts, words with
      | some setting, [] => parseSimple fuel line (setting :: settings) words redirects
      | _, _ => parseSimple fuel line settings (parts :: words) redirects
    | .redirect descriptor opening =>
      takeToken
      let target ← parseTarget fuel
      parseSimple fuel line settings words (.to (descriptor.getD 0) opening target :: redirects)
    | .document r =>
      takeToken
      parseSimple fuel line settings words (r :: redirects)
    | .mark "(" =>
      match settings, words, redirects with
      | [], [name], [] =>
        takeToken
        expectMark fuel ")"
        match Token.bare? (.word name) with
        | some name =>
          if !isName name || specialNames.contains name then
            StateT.lift (Reading.refuse "Bad function name")
          let _ ← peekBeyond fuel
          return .define name (← parseCommand fuel)
        | none => StateT.lift (Reading.refuse "Bad function name")
      | _, _, _ => refuseToken (.mark "(") none true
    | _ => return .simple line settings.reverse words.reverse redirects.reverse

/-- A choice, behind its first word. -/
def parseIf : Nat → Parsing Command
  | 0 => return .nothing
  | fuel + 1 => do
    let condition ← parseList fuel .closing .nothing
    expectWord fuel "then"
    let yes ← parseList fuel .closing .nothing
    match (← peekBeyond fuel).bare? with
    | some "elif" =>
      takeToken
      return .choice condition yes (← parseIf fuel)
    | some "else" =>
      takeToken
      let no ← parseList fuel .closing .nothing
      expectWord fuel "fi"
      return .choice condition yes no
    | _ =>
      expectWord fuel "fi"
      return .choice condition yes .nothing

/-- The body of a loop. -/
def parseDo : Nat → Parsing Command
  | 0 => return .nothing
  | fuel + 1 => do
    expectWord fuel "do"
    let body ← parseList fuel .closing .nothing
    expectWord fuel "done"
    return body

/-- A loop over words, behind its first word. -/
def parseFor : Nat → Nat → Parsing Command
  | 0, _ => return .nothing
  | fuel + 1, line => do
    let t ← peekToken fuel
    let name ← match t.bare?.filter isName with
      | some name => pure name
      | none => StateT.lift (Reading.refuse "Bad for loop variable")
    takeToken
    let words ← match ← peekBeyond fuel with
      | .word [.plain "in"] =>
        takeToken
        parseWords fuel
      | .mark ";" =>
        takeToken
        pure [[.value "@" .asIs true]]
      | _ => pure [[.value "@" .asIs true]]
    return .each line name words (← parseDo fuel)

/-- The words up to the end of the line or a semicolon. -/
def parseWords : Nat → Parsing (List Word)
  | 0 => return []
  | fuel + 1 => do
    match ← peekToken fuel with
    | .word parts =>
      takeToken
      return parts :: (← parseWords fuel)
    | .lineEnd | .mark ";" =>
      takeToken
      return []
    | t => refuseToken t none false

/-- The arms of a distinction, up to its last word. -/
def parseArms : Nat → Parsing (List Arm)
  | 0 => return []
  | fuel + 1 => do
    match ← peekBeyond fuel with
    | .word [.plain "esac"] =>
      takeToken
      return []
    | t =>
      if let .mark "(" := t then takeToken
      let patterns ← parsePatterns fuel
      let body ← parseList fuel .maybeEmpty .nothing
      match ← peekBeyond fuel with
      | .mark ";;" =>
        takeToken
        return .of patterns body :: (← parseArms fuel)
      | .word [.plain "esac"] =>
        takeToken
        return [.of patterns body]
      | t => refuseToken t (some "\";;\"") true

/-- The patterns of an arm, up to the parenthesis. -/
def parsePatterns : Nat → Parsing (List Word)
  | 0 => return []
  | fuel + 1 => do
    match ← peekToken fuel with
    | .word parts =>
      takeToken
      match ← peekToken fuel with
      | .mark "|" =>
        takeToken
        return parts :: (← parsePatterns fuel)
      | .mark ")" =>
        takeToken
        return [parts]
      | t => refuseToken t (some "\")\"") false
    | t => refuseToken t (some "\")\"") false

end

/-- Reads the next line of commands, and gives what is left of the script;
nothing at its end. -/
def parseLine (source : Source) : Except SyntaxFault (Option (Command × Source)) :=
  let extra := (source.aliases.map fun a => a.2.length).foldl (· + ·) 0
  let fuel := 30 * source.rest.length * (1 + extra) + 100
  match ((parseList fuel .line .nothing).run none).run source with
  | .error fault => .error fault
  | .ok ((.nothing, some _), _) => .ok none
  | .ok ((command, _), source) => .ok (some (command, source))

end Overseer.Rehearsal.Shell
