/-
Overseer.Report.Style — coloured text.

A style is switched on before a text and everything is switched off after it.
A text that switches everything off itself would lose the style from there on,
so the style is switched on again after each such place.
-/

namespace Overseer.Report

/-- How a text is to stand out. -/
inductive Style where
  | dim
  | red
  | green
  | blue
  | cyan
  | alarm
deriving DecidableEq, Repr

/-- The number by which a style is switched on. -/
def Style.code : Style → List Char
  | .dim => ['2']
  | .red => ['3', '1']
  | .green => ['3', '2']
  | .blue => ['3', '4']
  | .cyan => ['3', '6']
  | .alarm => ['1', ';', '3', '1']

/-- Begins a sequence that switches styles. -/
def escapeChars : List Char := [Char.ofNat 0x1b, '[']

/-- Switches a style on. -/
def Style.on (s : Style) : List Char := escapeChars ++ s.code ++ ['m']

/-- Switches everything off. -/
def off : List Char := escapeChars ++ ['0', 'm']

/-- Skips `skip` characters and puts the text `again` after each place that switches all off. -/
def renew (again : List Char) (skip : Nat) : List Char → List Char
  | [] => []
  | c :: cs =>
    match skip with
    | 1 => c :: (again ++ renew again 0 cs)
    | n + 2 => c :: renew again (n + 1) cs
    | 0 =>
      if off.isPrefixOf (c :: cs) then c :: renew again (off.length - 1) cs
      else c :: renew again 0 cs

/-- The text in a style, if colours are wanted. -/
def Style.paint (s : Style) (colors : Bool) (text : String) : String :=
  if colors then String.ofList (s.on ++ renew s.on 0 text.toList ++ off) else text

end Overseer.Report
