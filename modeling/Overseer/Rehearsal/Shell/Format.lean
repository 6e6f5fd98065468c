/-
Overseer.Rehearsal.Shell.Format — what `echo` and `printf` write.

A backslash begins an escape. The shell's own commands and the programs of the
same name differ in the escapes they know, so what is known is a parameter. A
format is used again as long as arguments are left.
-/
import Overseer.Rehearsal.Shell.Escape
import Overseer.Rehearsal.Shell.Fraction

namespace Overseer.Rehearsal.Shell

open Arithmetic (leadingLiteral leadingNumber)

/-! ## 1. Echo -/

/-- What the shell's own `echo` writes. -/
def echo (args : List String) : List UInt8 :=
  let (newline, args) := match args with
    | "-n" :: rest => (false, rest)
    | _ => (true, args)
  let (octets, goesOn) := Dialect.echo.unescape 0 (" ".intercalate args).toList
  octets ++ if newline && goesOn then [10] else []

/-- What the program `echo` writes: it may be told to end no line, and to resolve escapes. -/
def echoWithOptions (d : Dialect) (args : List String) : List UInt8 :=
  let isOption (arg : String) : Bool := ["-n", "-e", "-ne", "-en"].contains arg
  let (options, args) := (args.takeWhile isOption, args.dropWhile isOption)
  let has (c : Char) : Bool := options.any (·.toList.contains c)
  let text := " ".intercalate args
  let (octets, goesOn) :=
    if has 'e' then d.unescape 0 text.toList else (octetsOf text, true)
  octets ++ if !has 'n' && goesOn then [10] else []

/-! ## 2. Conversions -/

/-- How a value is to be shown. -/
structure Conversion where
  left : Bool
  zeros : Bool
  plus : Bool
  space : Bool
  alternate : Bool
  width : Nat
  precision : Option Nat
  kind : Char

/-- A number in a format: as it stands there, or from an argument. -/
inductive Extent where
  | usual
  | given (n : Nat)
  | argument
deriving DecidableEq

/-- Reads a number in a format, and gives how many characters it has. -/
def readExtent (cs : List Char) : Extent × Nat :=
  match cs with
  | '*' :: _ => (.argument, 1)
  | _ =>
    let (n, length) := leadingNumber 10 9 cs
    (if length = 0 then .usual else .given n, length)

/-- The kinds of values that can be shown. -/
def conversionKinds : List Char := ['d', 'i', 'o', 'u', 'x', 'X', 'c', 's', 'b', 'f']

/-- What is wrong with an argument. -/
inductive Misfit where
  | noNumber (arg : String)
  | notWhole (arg : String)
  | outOfRange (arg : String)
deriving DecidableEq, Repr

/-- Fills up to the width. -/
def Conversion.pad (c : Conversion) (octets : List UInt8) : List UInt8 :=
  let missing := c.width - octets.length
  if c.left then octets ++ List.replicate missing 32
  else if c.zeros && c.kind != 's' && c.kind != 'c' && c.kind != 'b' then
    match octets with
    | 45 :: digits => 45 :: (List.replicate missing 48 ++ digits)
    | 43 :: digits => 43 :: (List.replicate missing 48 ++ digits)
    | _ => List.replicate missing 48 ++ octets
  else List.replicate missing 32 ++ octets

/-- What is wrong if an argument was read as a number for so many characters. -/
def misfit? (arg : String) (length : Nat) : Option Misfit :=
  if length = arg.length then none
  else if length = 0 then some (.noNumber arg)
  else some (.notWhole arg)

/-- An argument that begins with a quote stands for the number of the character behind it. A
shell takes nothing behind it for zero. -/
def characterOf? (d : Dialect) (arg : String) : Option Nat :=
  match arg.toList with
  | '\'' :: rest | '"' :: rest =>
    match rest with
    | c :: _ => some c.toNat
    | [] => if d.hexadecimal then none else some 0
  | _ => none

/-- The whole number of an argument within bounds, and what is wrong with it. -/
def argumentInt (d : Dialect) (low high : Int) (arg : String) : Int × Option Misfit :=
  match characterOf? d arg with
  | some n => (n, none)
  | none =>
    let cs := arg.toList
    let blanks := cs.takeWhile Arithmetic.isBlank
    let (negative, digits) := Text.splitSign (cs.drop blanks.length)
    let (n, length) := leadingLiteral digits
    let value : Int := if negative then -n else n
    let whole := if length = 0 then 0 else cs.length - digits.length + length
    let bounded := max low (min high value)
    (bounded, (misfit? arg whole).or (if bounded = value then none else some (.outOfRange arg)))

/-- The digits of a number in a base. -/
def digitsOf (base : Nat) (capital : Bool) (n : Nat) : List UInt8 :=
  (Nat.toDigits base n).map fun c => (if capital then c.toUpper else c).toNat.toUInt8

/-- The sign that stands in front of a number. -/
def Conversion.sign (c : Conversion) (negative : Bool) : String :=
  if negative then "-" else if c.plus then "+" else if c.space then " " else ""

/-- A value as a conversion shows it, what is wrong with it, and whether output goes on. -/
def Conversion.show (c : Conversion) (d : Dialect) (arg : String) :
    List UInt8 × Option Misfit × Bool :=
  let filled (digits : List UInt8) : List UInt8 :=
    List.replicate (c.precision.getD 0 - digits.length) 48 ++ digits
  let zeros := c.zeros && c.precision.isNone
  let unsigned (base : Nat) (capital : Bool) (mark : String) : List UInt8 × Option Misfit × Bool :=
    let (n, misfit) := argumentInt d (Word.least 64) (Word.greatestUnsigned 64) arg
    let n := Word.unsigned 64 n
    let mark := if c.alternate && n != 0 then octetsOf mark else []
    (({ c with zeros }).pad (mark ++ filled (digitsOf base capital n)), misfit, true)
  let fraction (f : Fraction → String) : List UInt8 × Option Misfit × Bool :=
    let (value, length) := (Fraction.leading? arg.toList).getD (⟨false, 0, 1⟩, 0)
    let value := value.toDouble
    (c.pad (octetsOf (c.sign value.negative ++ f value)), misfit? arg length, true)
  let places := c.precision.getD 6
  match c.kind with
  | 's' =>
    let octets := octetsOf arg
    (c.pad (match c.precision with | some n => octets.take n | none => octets), none, true)
  | 'c' => (c.pad [(octetsOf arg).headD 0], none, true)
  | 'b' =>
    let (octets, goesOn) := d.inArguments.unescape 0 arg.toList
    (c.pad octets, none, goesOn)
  | 'o' => unsigned 8 false "0"
  | 'x' => unsigned 16 false "0x"
  | 'X' => unsigned 16 true "0X"
  | 'u' => unsigned 10 false ""
  | 'f' => fraction fun f => f.fixed places
  | _ =>
    let (n, misfit) := argumentInt d (Word.least 64) (Word.greatest 64) arg
    (({ c with zeros }).pad
      (octetsOf (c.sign (decide (n < 0))) ++ filled (digitsOf 10 false n.natAbs)), misfit, true)

/-! ## 3. Formats -/

/-- What a format writes. -/
structure Written where
  octets : List UInt8
  rest : List String
  usedAny : Bool
  misfits : List Misfit
  /-- A conversion that is not known; nothing more is written then. -/
  broken : Option String
  goesOn : Bool

/-- The value of an extent, and the arguments that are left. -/
def Extent.resolve (d : Dialect) (e : Extent) (args : List String) : Option Int × List String :=
  match e with
  | .usual => (none, args)
  | .given n => (some n, args)
  | .argument =>
    (some (argumentInt d (Word.least 64) (Word.greatest 64) (args.headD "")).1, args.tail)

/-- Writes a format once; `skip` characters of it are read already. -/
def formatOnce (d : Dialect) : Nat → List Char → List String → Written
  | _, [], args => ⟨[], args, false, [], none, true⟩
  | skip + 1, _ :: cs, args => formatOnce d skip cs args
  | 0, c :: cs, args =>
    let go (octets : List UInt8) (skip : Nat) (args : List String) : Written :=
      let w := formatOnce d skip cs args
      { w with octets := octets ++ w.octets }
    if c = '\\' then
      match d.read cs with
      | .octets values length => go values length args
      | .stop => ⟨[], args, false, [], none, false⟩
      | .none => go [92] 0 args
    else if c = '%' then
      if cs.head? = some '%' then go [37] 1 args
      else
        let flags := cs.takeWhile ['-', '0', '+', ' ', '#'].contains
        let rest := cs.drop flags.length
        let (width, widthLength) := readExtent rest
        let rest := rest.drop widthLength
        let (precision, precisionLength) := match rest with
          | '.' :: more =>
            let (e, length) := readExtent more
            (if e = Extent.usual then Extent.given 0 else e, length + 1)
          | _ => (Extent.usual, 0)
        let rest := rest.drop precisionLength
        let length := flags.length + widthLength + precisionLength
        match rest with
        | [] => ⟨[], args, false, [], some "missing format character", false⟩
        | kind :: _ =>
          if !conversionKinds.contains kind then
            let text := String.ofList ('%' :: cs.take (length + 1))
            let why := if d.hexadecimal then s!"{text}: invalid conversion specification"
              else s!"{text}: invalid directive"
            ⟨[], args, false, [], some why, false⟩
          else
            let (width?, args) := width.resolve d args
            let (precision?, args) := precision.resolve d args
            let conversion : Conversion := {
              left := flags.contains '-' || width?.any (· < 0)
              zeros := flags.contains '0'
              plus := flags.contains '+'
              space := flags.contains ' '
              alternate := flags.contains '#'
              width := (width?.getD 0).natAbs
              precision := (precision?.filter (0 ≤ ·)).map Int.toNat
              kind := kind }
            let (octets, misfit, goesOn) := conversion.show d (args.headD "")
            let misfits := if args.isEmpty then [] else misfit.toList
            if goesOn then
              let w := go octets (length + 1) args.tail
              { w with usedAny := true, misfits := misfits ++ w.misfits }
            else ⟨octets, args.tail, true, misfits, none, false⟩
    else go [c.toNat.toUInt8] 0 args

/-- Writes a format until the arguments are used up. -/
def formatAll (d : Dialect) (format : List Char) : Nat → List String → Written
  | 0, args => ⟨[], args, false, [], none, true⟩
  | fuel + 1, args =>
    let w := formatOnce d 0 format args
    if w.goesOn && w.usedAny && !w.rest.isEmpty then
      let more := formatAll d format fuel w.rest
      { more with octets := w.octets ++ more.octets, misfits := w.misfits ++ more.misfits }
    else w

/-- What `printf` writes. -/
def printf (d : Dialect) (format : String) (args : List String) : Written :=
  formatAll d format.toList (args.length + 1) args

end Overseer.Rehearsal.Shell
