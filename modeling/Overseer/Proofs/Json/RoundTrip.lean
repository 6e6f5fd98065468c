/-
Overseer.Proofs.Json.RoundTrip — a document that was written is read back.

`parse?_of_tokensOf` says it of every form with the tokens of the document, and
`parse?_compact` of the form on one line, for any depth of nesting and any text in
strings and names. The one condition is that every number is an integer, because any
other number is kept as it is spelled and may be spelled as anything.

The way back has the same two stages as the parser. Both forms are pieces, so the
first stage is about a list of pieces: `lex_pieces` says that its tokens come back
if no two words stand side by side (`Spaced`), whatever gaps there are. The second
stage is about one value: after its tokens the parser has read the value, whatever
is still open around it (`foldlM_pieces`). Both go along the recursion that lays a
document out.
-/
import Mathlib.Data.List.TakeWhile
import Mathlib.Tactic.SplitIfs
import Overseer.Json.Parser
import Overseer.Json.Printer
import Overseer.Proofs.Text.Decimal

namespace Overseer.Json

/-! ## 1. Strings -/

theorem hexValue?_hexDigit {n : Nat} (h : n < 16) : hexValue? (hexDigit n) = some n := by
  have hall : ∀ m : Fin 16, hexValue? (hexDigit m) = some m.val := by decide
  exact hall ⟨n, h⟩

/-- A digit stands for itself between quotes. -/
theorem hexDigit_plain {n : Nat} (h : n < 16) :
    hexDigit n ≠ '"' ∧ hexDigit n ≠ '\\' ∧ ¬ (hexDigit n).toNat < 32 := by
  have hall : ∀ m : Fin 16, hexDigit m ≠ '"' ∧ hexDigit m ≠ '\\' ∧ ¬ (hexDigit m).toNat < 32 := by
    decide
  exact hall ⟨n, h⟩

theorem units?_unitEscape {n : Nat} (h : n < 65536) (rest : List Char) :
    units? (unitEscape n ++ rest) = (units? rest).map (n :: ·) := by
  have hdigits : n / 4096 % 16 * 4096 + n / 256 % 16 * 256 + n / 16 % 16 * 16 + n % 16 = n := by
    omega
  have hunit : unit? (hexDigit (n / 4096 % 16)) (hexDigit (n / 256 % 16))
      (hexDigit (n / 16 % 16)) (hexDigit (n % 16)) = some n := by
    simp only [unit?, hexValue?_hexDigit (Nat.mod_lt _ (by decide : 0 < 16)), Option.pure_def,
      Option.bind_eq_bind, Option.bind_some, hdigits]
  simp only [unitEscape, List.cons_append, List.nil_append, units?, hunit, Option.bind_eq_bind,
    Option.bind_some, Option.pure_def]
  cases units? rest <;> rfl

/-- The letters that are written after a backslash, and what they stand for. -/
def shortEscapes : List (Char × Nat) :=
  [('"', 34), ('\\', 92), ('n', 10), ('r', 13), ('t', 9), ('b', 8), ('f', 12)]

theorem units?_shortEscape {e : Char} {n : Nat} (h : (e, n) ∈ shortEscapes) (rest : List Char) :
    units? ('\\' :: e :: rest) = (units? rest).map (n :: ·) := by
  simp only [shortEscapes, List.mem_cons, Prod.mk.injEq, List.not_mem_nil, or_false] at h
  rcases h with ⟨rfl, rfl⟩ | ⟨rfl, rfl⟩ | ⟨rfl, rfl⟩ | ⟨rfl, rfl⟩ | ⟨rfl, rfl⟩ | ⟨rfl, rfl⟩
    | ⟨rfl, rfl⟩
  all_goals cases hrest : units? rest <;> simp [units?, hrest]

/-- How a character stands between quotes. -/
inductive Spells (c : Char) : List Char → Prop where
  | short (e : Char) (h : (e, c.toNat) ∈ shortEscapes) : Spells c ['\\', e]
  | unit (h : c.toNat < 32) : Spells c (unitEscape c.toNat)
  | plain (quote : c ≠ '"') (slash : c ≠ '\\') (control : ¬ c.toNat < 32) : Spells c [c]

theorem spells_escapeChar (c : Char) : Spells c (escapeChar c) := by
  unfold escapeChar
  split_ifs with hquote hslash hline hreturn htab hback hfeed hcontrol
  · subst hquote
    exact .short '"' (by decide)
  · subst hslash
    exact .short '\\' (by decide)
  · subst hline
    exact .short 'n' (by decide)
  · subst hreturn
    exact .short 'r' (by decide)
  · subst htab
    exact .short 't' (by decide)
  · exact .short 'b' (by rw [hback]; decide)
  · exact .short 'f' (by rw [hfeed]; decide)
  · exact .unit hcontrol
  · exact .plain hquote hslash hcontrol

theorem Spells.units? {c : Char} {cs : List Char} (h : Spells c cs) (rest : List Char) :
    Json.units? (cs ++ rest) = (Json.units? rest).map (c.toNat :: ·) := by
  cases h with
  | short e h => exact units?_shortEscape h rest
  | unit h => exact units?_unitEscape (by omega) rest
  | plain quote slash control =>
    rw [List.singleton_append, Json.units?, Option.map_eq_bind]
    · rfl
    all_goals simp [slash]

theorem units?_escape (cs : List Char) : units? (escape cs) = some (cs.map Char.toNat) := by
  induction cs with
  | nil => rfl
  | cons c cs ih =>
    have ih : units? (cs.flatMap escapeChar) = some (cs.map Char.toNat) := ih
    rw [escape, List.flatMap_cons, (spells_escapeChar c).units?, ih]
    rfl

/-- No character is half a pair. -/
theorem pairUp_map_toNat (cs : List Char) :
    pairUp (cs.map Char.toNat) = some (String.ofList cs) := by
  induction cs with
  | nil => rfl
  | cons c cs ih =>
    have hvalid : c.toNat < 0xD800 ∨ 0xDFFF < c.toNat ∧ c.toNat < 0x110000 := c.valid
    have hhigh : isHigh c.toNat = false := by
      simp only [isHigh, Bool.and_eq_false_iff, decide_eq_false_iff_not]
      omega
    have hlow : isLow c.toNat = false := by
      simp only [isLow, Bool.and_eq_false_iff, decide_eq_false_iff_not]
      omega
    rw [List.map_cons, pairUp.eq_def]
    simp [hhigh, hlow, ih, Char.ofNat_toNat, String.ofList_cons]

theorem unescape?_escape (cs : List Char) :
    unescape? (escape cs) = some (some (String.ofList cs)) := by
  rw [unescape?, units?_escape, Option.map_some, pairUp_map_toNat]

theorem lex_plain {c : Char} (hquote : c ≠ '"') (hslash : c ≠ '\\') (hcontrol : ¬ c.toNat < 32)
    (done rest : List Char) :
    lex (.quoted done false) (c :: rest) = lex (.quoted (c :: done) false) rest := by
  simp only [lex, if_neg hquote, if_neg hcontrol, beq_eq_false_iff_ne.mpr hslash]

theorem lex_unitEscape (n : Nat) (done rest : List Char) :
    lex (.quoted done false) (unitEscape n ++ rest)
      = lex (.quoted ((unitEscape n).reverse ++ done) false) rest := by
  have hdigit : ∀ m (done rest : List Char),
      lex (.quoted done false) (hexDigit (m % 16) :: rest)
        = lex (.quoted (hexDigit (m % 16) :: done) false) rest := by
    intro m
    obtain ⟨hquote, hslash, hcontrol⟩ := hexDigit_plain (Nat.mod_lt m (by decide : 0 < 16))
    exact lex_plain hquote hslash hcontrol
  have hopen : ∀ ds : List Char, lex (.quoted done false) ('\\' :: 'u' :: ds)
      = lex (.quoted ('u' :: '\\' :: done) false) ds := fun ds => by simp [lex]
  simp only [unitEscape, List.cons_append, List.nil_append, hopen, hdigit, List.reverse_cons,
    List.reverse_nil]

/-- Reading goes past what stands for a character between quotes. -/
theorem Spells.lex {c : Char} {cs : List Char} (h : Spells c cs) (done rest : List Char) :
    Json.lex (.quoted done false) (cs ++ rest)
      = Json.lex (.quoted (cs.reverse ++ done) false) rest := by
  cases h with
  | short e h => simp [Json.lex]
  | unit h => exact lex_unitEscape c.toNat done rest
  | plain quote slash control => exact lex_plain quote slash control done rest

theorem lex_escape (cs done rest : List Char) :
    lex (.quoted done false) (escape cs ++ rest)
      = lex (.quoted ((escape cs).reverse ++ done) false) rest := by
  induction cs generalizing done with
  | nil => rfl
  | cons c cs ih =>
    have hescape : escape (c :: cs) = escapeChar c ++ escape cs := List.flatMap_cons
    rw [hescape, List.append_assoc, (spells_escapeChar c).lex, ih, List.reverse_append,
      List.append_assoc]

/-- What stands between the quotes of a string. -/
theorem quote_spec (s : Label) :
    ∃ cs, quote s = '"' :: (cs ++ ['"']) ∧ unescape? cs = some s
      ∧ ∀ done rest, lex (.quoted done false) (cs ++ rest)
        = lex (.quoted (cs.reverse ++ done) false) rest := by
  cases s with
  | none => exact ⟨unitEscape 0xD800, rfl, by decide, lex_unitEscape 0xD800⟩
  | some s =>
    refine ⟨escape s.toList, rfl, ?_, lex_escape s.toList⟩
    rw [unescape?_escape, String.ofList_toList]

/-- A string is read as it was written, whatever follows. -/
theorem lex_quote (s : Label) (rest : List Char) :
    lex .between (quote s ++ rest) = (lex .between rest).map (.str s :: ·) := by
  obtain ⟨cs, hquote, hunescape, hlex⟩ := quote_spec s
  have hopen : lex .between (quote s ++ rest) = lex (.quoted [] false) (cs ++ '"' :: rest) := by
    simp [hquote, lex, enter, isGap]
  rw [hopen, hlex]
  simp only [lex, List.append_nil, List.reverse_reverse, hunescape, if_true]
  cases lex .between rest <;> rfl

/-! ## 2. Words -/

/-- The value is written as one word. -/
def Value.isWord : Value → Bool
  | .null => true
  | .bool _ => true
  | .int _ => true
  | _ => false

/-- Digits of a number above 0 do not begin with a 0. -/
theorem eq_zero_of_head?_toDigits {n : Nat} (h : (Nat.toDigits 10 n).head? = some '0') : n = 0 := by
  induction n using Nat.strongRecOn with
  | ind n ih =>
    by_cases hn : n < 10
    · have hall : ∀ m : Fin 10, m.val.digitChar = '0' → m.val = 0 := by decide
      rw [Nat.toDigits_of_lt_base hn] at h
      exact hall ⟨n, hn⟩ (Option.some.inj h)
    · have hless : (Nat.toDigits 10 (n / 10)).head? = some '0' → n / 10 = 0 :=
        ih (n / 10) (by omega)
      obtain ⟨d, ds, hds⟩ :=
        List.exists_cons_of_ne_nil (Nat.toDigits_ne_nil (b := 10) (n := n / 10))
      rw [Nat.toDigits_of_base_le (by decide) (by omega), hds] at h
      have hzero := hless (hds ▸ h)
      omega

theorem digitsValue_toDigits (n : Nat) : digitsValue (Nat.toDigits 10 n) = n := by
  rw [digitsValue, ← Text.digitsAfter_eq_foldl, Text.digitsAfter_toDigits]

theorem number?_toString (i : Int) : number? (toString i).toList = some (.int i) := by
  have hdigit := Text.isDigit_toDigits i.natAbs
  have htake : (Nat.toDigits 10 i.natAbs).takeWhile Char.isDigit = Nat.toDigits 10 i.natAbs :=
    List.takeWhile_eq_self_iff.mpr hdigit
  have hdrop : (Nat.toDigits 10 i.natAbs).dropWhile Char.isDigit = [] :=
    List.dropWhile_eq_nil_iff.mpr hdigit
  have hdigits : isDigits (Nat.toDigits 10 i.natAbs) = true := by
    simp only [isDigits, Bool.and_eq_true, Bool.not_eq_true', List.isEmpty_eq_false_iff,
      List.all_eq_true]
    exact ⟨Nat.toDigits_ne_nil, hdigit⟩
  -- Only the number 0 begins with a 0, and it has no other digit.
  have hlead : ((Nat.toDigits 10 i.natAbs).head? == some '0'
      && decide ((Nat.toDigits 10 i.natAbs).length > 1)) = false := by
    rw [Bool.and_eq_false_iff]
    by_cases hzero : i.natAbs = 0
    · exact Or.inr (by rw [hzero]; rfl)
    · exact Or.inl (beq_eq_false_iff_ne.mpr fun h => hzero (eq_zero_of_head?_toDigits h))
  rw [Text.toList_toString_int]
  split
  next hpos =>
    have hsign : ((Nat.toDigits 10 i.natAbs).head? == some '-') = false := by
      refine beq_eq_false_iff_ne.mpr fun h => ?_
      exact absurd (hdigit '-' (List.mem_of_head? h)) (by decide)
    have hvalue : (i.natAbs : Int) = i := by omega
    simp [number?, hsign, htake, hdrop, hdigits, hlead, digitsValue_toDigits, hvalue]
  next hneg =>
    have hvalue : -(i.natAbs : Int) = i := by omega
    have hzero : ¬ Nat.toDigits 10 i.natAbs = ['0'] := fun h => by
      have := eq_zero_of_head?_toDigits (n := i.natAbs) (by rw [h]; rfl)
      omega
    have hread : number? (['-'] ++ Nat.toDigits 10 i.natAbs) = some (.int (-(i.natAbs : Int))) := by
      simp [number?, htake, hdrop, hdigits, hlead, digitsValue_toDigits, hzero]
    rw [hread, hvalue]

theorem word?_toString (i : Int) : word? (toString i).toList = some (.int i) := by
  have hname : ∀ {c : Char} {cs : List Char}, ¬ (c.isDigit = true ∨ c = '-') →
      ¬ (toString i).toList = c :: cs := by
    intro c cs hc h
    exact hc (Text.digit_or_sign_of_mem_toString (h ▸ List.mem_cons_self))
  rw [word?, if_neg (hname (by decide)), if_neg (hname (by decide)), if_neg (hname (by decide)),
    number?_toString]

theorem isDelimiter_of_isDigit {c : Char} (h : c.isDigit = true) : isDelimiter c = false := by
  have hrange : 48 ≤ c.toNat ∧ c.toNat ≤ 57 := by
    simpa [Char.isDigit, UInt32.le_iff_toNat_le] using h
  have hne : ∀ d : Char, ¬ (48 ≤ d.toNat ∧ d.toNat ≤ 57) → c ≠ d := by
    rintro d hd rfl
    exact hd hrange
  have hobject : c.toNat ≠ 0x7b ∧ c.toNat ≠ 0x7d := by omega
  simp [isDelimiter, isGap, mark?, hobject, hne ' ' (by decide), hne '\t' (by decide),
    hne '\n' (by decide), hne '\r' (by decide), hne '"' (by decide), hne '[' (by decide),
    hne ']' (by decide), hne ':' (by decide), hne ',' (by decide)]

/-- A word that is written is one run of characters, and reading gives it back. -/
structure IsSpelled (v : Value) (cs : List Char) : Prop where
  begins : cs ≠ []
  whole : ∀ c ∈ cs, isDelimiter c = false
  reads : word? cs = some v

theorem isSpelled_chars {v : Value} (h : v.isWord = true) : IsSpelled v (Token.atom v).chars := by
  have hwhole {cs : List Char} (hall : cs.all (fun c => !isDelimiter c) = true) :
      ∀ c ∈ cs, isDelimiter c = false := by
    simpa using hall
  cases v with
  | null => exact ⟨by decide, hwhole (by decide), rfl⟩
  | bool b => cases b with
    | false => exact ⟨by decide, hwhole (by decide), rfl⟩
    | true => exact ⟨by decide, hwhole (by decide), rfl⟩
  | int i =>
    refine ⟨?_, ?_, word?_toString i⟩
    · show (toString i).toList ≠ []
      rw [Text.toList_toString_int]
      exact List.append_ne_nil_of_right_ne_nil _ Nat.toDigits_ne_nil
    · intro c hc
      rcases Text.digit_or_sign_of_mem_toString hc with hdigit | rfl
      · exact isDelimiter_of_isDigit hdigit
      · decide
  | real spelling => cases h
  | str s => cases h
  | arr items => cases h
  | obj fields => cases h

theorem lex_between_cons (c : Char) (cs : List Char) :
    lex .between (c :: cs) = (lex (enter c).2 cs).map ((enter c).1 ++ ·) := by
  simp only [lex, enter]
  split_ifs
  · simp
  · simp
  · cases mark? c with
    | none => simp
    | some t => cases lex .between cs <;> rfl

theorem lex_wordMode {cs : List Char} (h : ∀ c ∈ cs, isDelimiter c = false)
    (done rest : List Char) :
    lex (.word done) (cs ++ rest) = lex (.word (cs.reverse ++ done)) rest := by
  induction cs generalizing done with
  | nil => rfl
  | cons c cs ih =>
    obtain ⟨hc, hcs⟩ := List.forall_mem_cons.mp h
    rw [List.cons_append, lex]
    simp [hc, ih hcs]

/-- The text begins with what ends a word, or there is no text. -/
def Breaks (cs : List Char) : Prop := ∀ c ∈ cs.head?, isDelimiter c = true

theorem lex_endOfWord {done rest : List Char} {v : Value} (h : word? done.reverse = some v)
    (hrest : Breaks rest) : lex (.word done) rest = (lex .between rest).map (.atom v :: ·) := by
  cases rest with
  | nil => simp [lex, h]
  | cons c cs =>
    have hc : isDelimiter c = true := hrest c rfl
    rw [lex_between_cons, lex]
    simp only [hc, if_true, h]
    cases lex (enter c).2 cs <;> rfl

/-- A word is read as it was written, if something that ends it follows. -/
theorem lex_word {v : Value} {cs : List Char} (h : IsSpelled v cs) {rest : List Char}
    (hrest : Breaks rest) : lex .between (cs ++ rest) = (lex .between rest).map (.atom v :: ·) := by
  obtain ⟨hbegins, hwhole, hreads⟩ := h
  obtain ⟨c, cs, rfl⟩ := List.exists_cons_of_ne_nil hbegins
  obtain ⟨hc, hcs⟩ := List.forall_mem_cons.mp hwhole
  have henter : enter c = ([], .word [c]) := by
    simp only [isDelimiter, Bool.or_eq_false_iff] at hc
    obtain ⟨⟨hgap, hquote⟩, hmark⟩ := hc
    have hmark : mark? c = none :=
      Option.isNone_iff_eq_none.mp (Option.isSome_eq_false_iff.mp hmark)
    simp [enter, hgap, beq_eq_false_iff_ne.mp hquote, hmark]
  have hopen : lex .between (c :: cs ++ rest) = lex (.word [c]) (cs ++ rest) := by
    rw [List.cons_append, lex_between_cons, henter]
    simp
  rw [hopen, lex_wordMode hcs, lex_endOfWord (by simpa using hreads) hrest]

/-! ## 3. Tokens with gaps between them -/

/-- The token of a piece that is one. -/
def Piece.token? : Piece → Option Token
  | .token t => some t
  | _ => none

/-- The tokens among pieces. -/
def tokensOf (ps : List Piece) : List Token := ps.filterMap Piece.token?

@[simp] theorem tokensOf_nil : tokensOf [] = [] := rfl

@[simp] theorem tokensOf_token (t : Token) (ps : List Piece) :
    tokensOf (.token t :: ps) = t :: tokensOf ps := rfl

@[simp] theorem tokensOf_blank (ps : List Piece) : tokensOf (.blank :: ps) = tokensOf ps := rfl

@[simp] theorem tokensOf_line (level : Nat) (ps : List Piece) :
    tokensOf (.line level :: ps) = tokensOf ps := rfl

@[simp] theorem tokensOf_append (ps qs : List Piece) :
    tokensOf (ps ++ qs) = tokensOf ps ++ tokensOf qs :=
  List.filterMap_append

theorem tokensOf_filter_isToken (ps : List Piece) :
    tokensOf (ps.filter Piece.isToken) = tokensOf ps := by
  induction ps with
  | nil => rfl
  | cons p ps ih =>
    cases p with
    | token t => exact congrArg (t :: ·) ih
    | blank => exact ih
    | line level => exact ih

/-- The tokens begin with none that is a word. -/
def Clear : List Token → Prop
  | .atom _ :: _ => False
  | _ => True

/-- Every word is one that is read back, and no two words are neighbours. -/
def Spaced : List Token → Prop
  | [] => True
  | .atom v :: ts => v.isWord = true ∧ Clear ts ∧ Spaced ts
  | _ :: ts => Spaced ts

/-- A gap is passed over. -/
theorem lex_gaps {cs : List Char} (h : ∀ c ∈ cs, isGap c = true) (rest : List Char) :
    lex .between (cs ++ rest) = lex .between rest := by
  induction cs with
  | nil => rfl
  | cons c cs ih =>
    obtain ⟨hc, hcs⟩ := List.forall_mem_cons.mp h
    rw [List.cons_append, lex_between_cons]
    simp [enter, hc, ih hcs]

/-- What is no word is read as it was written, whatever follows. -/
theorem lex_token {t : Token} (h : Clear [t]) (rest : List Char) :
    lex .between (t.chars ++ rest) = (lex .between rest).map (t :: ·) := by
  have hmark : ∀ {c : Char} {t : Token}, isGap c = false → c ≠ '"' → mark? c = some t →
      lex .between (c :: rest) = (lex .between rest).map (t :: ·) := by
    intro c t hgap hquote hmark
    rw [lex_between_cons]
    simp [enter, hgap, hquote, hmark]
  cases t with
  | openList => exact hmark (by decide) (by decide) rfl
  | closeList => exact hmark (by decide) (by decide) rfl
  | openObject => exact hmark (by decide) (by decide) rfl
  | closeObject => exact hmark (by decide) (by decide) rfl
  | colon => exact hmark (by decide) (by decide) rfl
  | comma => exact hmark (by decide) (by decide) rfl
  | str s => exact lex_quote s rest
  | atom v => exact absurd h id

theorem Piece.breaks (p : Piece) (h : ∀ t, p.token? = some t → Clear [t]) (rest : List Char) :
    Breaks (p.chars ++ rest) := by
  cases p with
  | blank => simp [Breaks, Piece.chars, isDelimiter, isGap]
  | line level => simp [Breaks, Piece.chars, isDelimiter, isGap]
  | token t =>
    cases t with
    | str s =>
      obtain ⟨cs, hquote, _⟩ := quote_spec s
      simp [Breaks, Piece.chars, Token.chars, hquote, isDelimiter]
    | atom v => exact absurd (h _ rfl) id
    | _ => simp [Breaks, Piece.chars, Token.chars, isDelimiter, mark?, isGap]

theorem breaks_pieces {ps : List Piece} (h : Clear (tokensOf ps)) :
    Breaks (ps.flatMap Piece.chars) := by
  cases ps with
  | nil => simp [Breaks]
  | cons p ps =>
    rw [List.flatMap_cons]
    refine p.breaks (fun t ht => ?_) _
    cases p with
    | token t' =>
      cases ht
      cases t <;> trivial
    | blank => cases ht
    | line level => cases ht

/-- The tokens of pieces come back, whatever gaps there are. -/
theorem lex_pieces {ps : List Piece} (h : Spaced (tokensOf ps)) :
    lex .between (ps.flatMap Piece.chars) = some (tokensOf ps) := by
  induction ps with
  | nil => rfl
  | cons p ps ih =>
    rw [List.flatMap_cons]
    cases p with
    | blank => exact (lex_gaps (by simp [Piece.chars, isGap]) _).trans (ih h)
    | line level => exact (lex_gaps (by simp [Piece.chars, isGap]) _).trans (ih h)
    | token t =>
      have hread : Spaced (tokensOf ps) → lex .between (t.chars ++ ps.flatMap Piece.chars)
          = (lex .between (ps.flatMap Piece.chars)).map (t :: ·) →
          lex .between (t.chars ++ ps.flatMap Piece.chars) = some (t :: tokensOf ps) := by
        intro hps hlex
        rw [hlex, ih hps]
        rfl
      cases t with
      | atom v =>
        obtain ⟨hword, hclear, hps⟩ := h
        exact hread hps (lex_word (isSpelled_chars hword) (breaks_pieces hclear))
      | _ => exact hread h (lex_token (by trivial) _)

/-! ## 4. Documents -/

mutual

/-- Every number in the document is an integer. -/
def Value.isWhole : Value → Bool
  | .arr items => areWhole items
  | .obj fields => fieldsWhole fields
  | .real _ => false
  | _ => true

/-- So is every number in the items. -/
def areWhole : List Value → Bool
  | [] => true
  | v :: vs => v.isWhole && areWhole vs

/-- So is every number in the fields. -/
def fieldsWhole : List (Label × Value) → Bool
  | [] => true
  | (_, v) :: fs => v.isWhole && fieldsWhole fs

end

theorem areWhole_eq_all (vs : List Value) : areWhole vs = vs.all Value.isWhole := by
  induction vs with
  | nil => rfl
  | cons v vs ih => rw [areWhole, List.all_cons, ih]

theorem fieldsWhole_eq_all (fs : List (Label × Value)) :
    fieldsWhole fs = fs.all fun f => f.2.isWhole := by
  induction fs with
  | nil => rfl
  | cons f fs ih => rw [fieldsWhole, List.all_cons, ih]

mutual

/-- The tokens of a document, and then others that begin with no word, are spaced. -/
theorem spaced_pieces : ∀ (v : Value) (level : Nat) (rest : List Token), v.isWhole = true →
    Clear rest → Spaced rest → Spaced (tokensOf (v.pieces level) ++ rest)
  | .null, _, _, _, hclear, hrest => ⟨rfl, hclear, hrest⟩
  | .bool _, _, _, _, hclear, hrest => ⟨rfl, hclear, hrest⟩
  | .int _, _, _, _, hclear, hrest => ⟨rfl, hclear, hrest⟩
  | .real _, _, _, h, _, _ => nomatch h
  | .str _, _, _, _, _, hrest => hrest
  | .arr [], _, _, _, _, hrest => hrest
  | .arr (v :: vs), level, rest, h, _, hrest => by
    obtain ⟨hv, hvs⟩ := Bool.and_eq_true_iff.mp h
    have hitems := spaced_itemPieces vs (level + 1) (.closeList :: rest) hvs trivial hrest
    simpa [Value.pieces, Spaced] using spaced_pieces v (level + 1) _ hv hitems.1 hitems.2
  | .obj [], _, _, _, _, hrest => hrest
  | .obj ((key, v) :: fs), level, rest, h, _, hrest => by
    obtain ⟨hv, hfs⟩ := Bool.and_eq_true_iff.mp h
    have hothers := spaced_otherPieces fs (level + 1) (.closeObject :: rest) hfs trivial hrest
    simpa [Value.pieces, fieldPieces, Spaced] using
      spaced_pieces v (level + 1) _ hv hothers.1 hothers.2

/-- So are the tokens of items after the first. -/
theorem spaced_itemPieces : ∀ (vs : List Value) (level : Nat) (rest : List Token),
    areWhole vs = true → Clear rest → Spaced rest →
    Clear (tokensOf (itemPieces level vs) ++ rest) ∧ Spaced (tokensOf (itemPieces level vs) ++ rest)
  | [], _, _, _, hclear, hrest => ⟨hclear, hrest⟩
  | v :: vs, level, rest, h, hclear, hrest => by
    obtain ⟨hv, hvs⟩ := Bool.and_eq_true_iff.mp h
    have hitems := spaced_itemPieces vs level rest hvs hclear hrest
    refine ⟨trivial, ?_⟩
    simpa [itemPieces, Spaced] using spaced_pieces v level _ hv hitems.1 hitems.2

/-- So are the tokens of fields after the first. -/
theorem spaced_otherPieces : ∀ (fs : List (Label × Value)) (level : Nat) (rest : List Token),
    fieldsWhole fs = true → Clear rest → Spaced rest →
    Clear (tokensOf (otherPieces level fs) ++ rest)
      ∧ Spaced (tokensOf (otherPieces level fs) ++ rest)
  | [], _, _, _, hclear, hrest => ⟨hclear, hrest⟩
  | (key, v) :: fs, level, rest, h, hclear, hrest => by
    obtain ⟨hv, hfs⟩ := Bool.and_eq_true_iff.mp h
    have hothers := spaced_otherPieces fs level rest hfs hclear hrest
    refine ⟨trivial, ?_⟩
    simpa [otherPieces, fieldPieces, Spaced] using spaced_pieces v level _ hv hothers.1 hothers.2

end

/-- A list that was opened awaits its first item as any value is awaited. -/
theorem foldlM_firstItem (v : Value) (level : Nat) (stack : List Frame) (rest : List Token) :
    (tokensOf (v.pieces level) ++ rest).foldlM step (.itemOrClose, stack)
      = (tokensOf (v.pieces level) ++ rest).foldlM step (.value, .items [] :: stack) := by
  have hfirst : ∀ {t : Token} {ts : List Token}, t ≠ .closeList →
      (t :: ts).foldlM step (.itemOrClose, stack)
        = (t :: ts).foldlM step (.value, .items [] :: stack) := by
    intro t ts ht
    cases t with
    | closeList => exact absurd rfl ht
    | _ => rfl
  cases v with
  | arr items => cases items <;> exact hfirst nofun
  | obj fields => cases fields <;> exact hfirst nofun
  | _ => exact hfirst nofun

mutual

/-- After the tokens of a value the parser has read it, whatever is still open. -/
theorem foldlM_pieces : ∀ (v : Value) (level : Nat) (stack : List Frame) (rest : List Token),
    (tokensOf (v.pieces level) ++ rest).foldlM step (.value, stack)
      = rest.foldlM step (.separator v, stack)
  | .null, _, _, _ => rfl
  | .bool _, _, _, _ => rfl
  | .int _, _, _, _ => rfl
  | .real _, _, _, _ => rfl
  | .str _, _, _, _ => rfl
  | .arr [], _, _, _ => rfl
  | .arr (v :: vs), level, stack, rest => by
    have hpieces : tokensOf ((Value.arr (v :: vs)).pieces level) ++ rest
        = .openList :: (tokensOf (v.pieces (level + 1))
          ++ (tokensOf (itemPieces (level + 1) vs) ++ .closeList :: rest)) := by
      simp [Value.pieces]
    have hopen : ∀ ts : List Token, (Token.openList :: ts).foldlM step (.value, stack)
        = ts.foldlM step (.itemOrClose, stack) := fun _ => rfl
    rw [hpieces, hopen, foldlM_firstItem, foldlM_pieces v, foldlM_itemPieces vs]
    rfl
  | .obj [], _, _, _ => rfl
  | .obj ((key, v) :: fs), level, stack, rest => by
    have hpieces : tokensOf ((Value.obj ((key, v) :: fs)).pieces level) ++ rest
        = .openObject :: .str key :: .colon :: (tokensOf (v.pieces (level + 1))
          ++ (tokensOf (otherPieces (level + 1) fs) ++ .closeObject :: rest)) := by
      simp [Value.pieces, fieldPieces]
    have hopen : ∀ ts : List Token,
        (Token.openObject :: .str key :: .colon :: ts).foldlM step (.value, stack)
          = ts.foldlM step (.value, .fields [] key :: stack) := fun _ => rfl
    rw [hpieces, hopen, foldlM_pieces v, foldlM_otherPieces fs]
    rfl

/-- After the items of a list and its end the parser has read the list. -/
theorem foldlM_itemPieces : ∀ (vs : List Value) (level : Nat) (v : Value) (done : List Value)
    (stack : List Frame) (rest : List Token),
    (tokensOf (itemPieces level vs) ++ .closeList :: rest).foldlM step
        (.separator v, .items done :: stack)
      = rest.foldlM step (.separator (.arr ((v :: done).reverse ++ vs)), stack)
  | [], _, _, _, _, _ => by
    rw [List.append_nil]
    rfl
  | w :: vs, level, v, done, stack, rest => by
    have hpieces : tokensOf (itemPieces level (w :: vs)) ++ .closeList :: rest
        = .comma :: (tokensOf (w.pieces level)
          ++ (tokensOf (itemPieces level vs) ++ .closeList :: rest)) := by
      simp [itemPieces]
    have hnext : ∀ ts : List Token,
        (Token.comma :: ts).foldlM step (.separator v, .items done :: stack)
          = ts.foldlM step (.value, .items (v :: done) :: stack) := fun _ => rfl
    rw [hpieces, hnext, foldlM_pieces w, foldlM_itemPieces vs]
    simp

/-- After the fields of an object and its end the parser has read the object. -/
theorem foldlM_otherPieces : ∀ (fs : List (Label × Value)) (level : Nat) (key : Label) (v : Value)
    (done : List (Label × Value)) (stack : List Frame) (rest : List Token),
    (tokensOf (otherPieces level fs) ++ .closeObject :: rest).foldlM step
        (.separator v, .fields done key :: stack)
      = rest.foldlM step (.separator (.obj (((key, v) :: done).reverse ++ fs)), stack)
  | [], _, _, _, _, _, _ => by
    rw [List.append_nil]
    rfl
  | (key', w) :: fs, level, key, v, done, stack, rest => by
    have hpieces : tokensOf (otherPieces level ((key', w) :: fs)) ++ .closeObject :: rest
        = .comma :: .str key' :: .colon :: (tokensOf (w.pieces level)
          ++ (tokensOf (otherPieces level fs) ++ .closeObject :: rest)) := by
      simp [otherPieces, fieldPieces]
    have hnext : ∀ ts : List Token, (Token.comma :: .str key' :: .colon :: ts).foldlM step
          (.separator v, .fields done key :: stack)
        = ts.foldlM step (.value, .fields ((key, v) :: done) key' :: stack) := fun _ => rfl
    rw [hpieces, hnext, foldlM_pieces w, foldlM_otherPieces fs]
    simp

end

theorem ofTokens?_pieces (v : Value) (level : Nat) :
    ofTokens? (tokensOf (v.pieces level)) = some v := by
  have hread := foldlM_pieces v level [] []
  rw [List.append_nil] at hread
  rw [ofTokens?, hread]
  rfl

/-- Pieces with the tokens of a document spell it, with all, some or none of its gaps. -/
theorem parse?_of_tokensOf {v : Value} (h : v.isWhole = true) {ps : List Piece} {level : Nat}
    (hps : tokensOf ps = tokensOf (v.pieces level)) :
    parse? (String.ofList (ps.flatMap Piece.chars)) = some v := by
  have hspaced := spaced_pieces v level [] h trivial trivial
  rw [List.append_nil, ← hps] at hspaced
  rw [parse?, String.toList_ofList, lex_pieces hspaced, Option.bind_some, hps, ofTokens?_pieces]

/-- **A document on one line is read back.** -/
theorem parse?_compact {v : Value} (h : v.isWhole = true) : parse? v.compact = some v :=
  parse?_of_tokensOf h (tokensOf_filter_isToken (v.pieces 0))

end Overseer.Json
