import Rulebook.Json.Reader
import Rulebook.Json.Writer
import Rulebook.Proofs.Number.Shortest

/-!
Reading back strings and numbers as they are written. Main statements:
* `readString_body`: the characters of a string are read back, however they are written;
* `readNumber_written`: a numeral is read up to its last digit;
* `readsAs_word`, `readsAs_stringText`, `readsAs_int`, `readsAs_double`: so words, strings,
  integers and doubles are read back wherever they stand.
-/

namespace Rulebook.Json

/-! ## Strings -/

theorem isHexDigit_digitChar : ∀ d < 16, isHexDigit (Nat.digitChar d) = true := by decide

theorem hexDigitValue_digitChar : ∀ d < 16, hexDigitValue (Nat.digitChar d) = d := by decide

theorem hexValue_append (as bs : List Char) :
    hexValue (as ++ bs) = bs.foldl (fun n c => 16 * n + hexDigitValue c) (hexValue as) := by
  rw [hexValue, List.foldl_append, ← hexValue]

theorem hexDigits_of_toDigits (n : Nat) :
    hexValue (Nat.toDigits 16 n) = n ∧ ∀ c ∈ Nat.toDigits 16 n, isHexDigit c = true := by
  induction n using Nat.strongRecOn with
  | ind n ih =>
    by_cases single : n < 16
    · rw [Nat.toDigits_of_lt_base single]
      refine ⟨?_, List.forall_mem_singleton.mpr (isHexDigit_digitChar n single)⟩
      rw [hexValue, List.foldl_cons, List.foldl_nil, hexDigitValue_digitChar n single]
      omega
    · have last : n % 16 < 16 := Nat.mod_lt _ (by decide)
      obtain ⟨value, digits⟩ := ih (n / 16) (by omega)
      rw [Nat.toDigits_of_base_le (by decide) (by omega)]
      refine ⟨?_, List.forall_mem_append.mpr
        ⟨digits, List.forall_mem_singleton.mpr (isHexDigit_digitChar _ last)⟩⟩
      rw [hexValue_append, value, List.foldl_cons, List.foldl_nil, hexDigitValue_digitChar _ last]
      omega

theorem hexValue_zeros_append (k : Nat) (ds : List Char) :
    hexValue (List.replicate k '0' ++ ds) = hexValue ds := by
  induction k with
  | zero => rfl
  | succ k ih => exact ih

variable {n : Nat} {rest : List Char}

theorem length_hexDigits (short : n < 0x10000) : (Text.hexDigits 4 n).length = 4 := by
  have few : (Nat.toDigits 16 n).length ≤ 4 :=
    (Nat.length_toDigits_le_iff (by decide) (by decide)).mpr short
  rw [Text.hexDigits, List.length_append, List.length_replicate]
  omega

theorem readHex_hexDigits (short : n < 0x10000) : readHex (Text.hexDigits 4 n) = some n := by
  obtain ⟨value, digits⟩ := hexDigits_of_toDigits n
  have all : (Text.hexDigits 4 n).all isHexDigit = true := by
    refine List.all_eq_true.mpr (List.forall_mem_append.mpr ⟨fun c member => ?_, digits⟩)
    rw [List.eq_of_mem_replicate member]
    decide
  rw [readHex, length_hexDigits short, all, Text.hexDigits, hexValue_zeros_append, value]
  rfl

theorem take_hexDigits (short : n < 0x10000) (rest : List Char) :
    (Text.hexDigits 4 n ++ rest).take 4 = Text.hexDigits 4 n ∧
      (Text.hexDigits 4 n ++ rest).drop 4 = rest := by
  have four := length_hexDigits short
  exact ⟨List.take_left' four, List.drop_left' four⟩

/-- A unit that is no half of a pair is read as the character of its number. -/
theorem readCode_unit (short : n < 0x10000) (whole : n < 0xD800 ∨ 0xE000 ≤ n) (rest : List Char) :
    readCode (Text.hexDigits 4 n ++ rest) = some (Char.ofNat n, rest) := by
  obtain ⟨taken, dropped⟩ := take_hexDigits short rest
  rw [readCode, taken, dropped, readHex_hexDigits short]
  exact if_neg (by omega)

/-- Two halves are read as the character of the number that they join to. -/
theorem readCode_pair {high low : Nat} (isHigh : 0xD800 ≤ high ∧ high < 0xDC00)
    (isLow : 0xDC00 ≤ low ∧ low < 0xE000) (rest : List Char) :
    readCode (Text.hexDigits 4 high ++ (unitText low ++ rest)) =
      some (Char.ofNat (joinPair high low), rest) := by
  obtain ⟨taken, dropped⟩ := take_hexDigits (by omega : high < 0x10000) (unitText low ++ rest)
  obtain ⟨taken', dropped'⟩ := take_hexDigits (by omega : low < 0x10000) rest
  rw [readCode, taken, dropped, readHex_hexDigits (by omega)]
  simp only [unitText, List.cons_append, Option.bind_eq_bind, Option.bind_some, taken',
    dropped', readHex_hexDigits (by omega : low < 0x10000)]
  rw [if_pos (by omega), if_pos (by omega)]

theorem readCode_split {n : Nat} (big : 0x10000 ≤ n) (valid : n < 0x110000) (rest : List Char) :
    readCode (Text.hexDigits 4 (0xD800 + (n - 0x10000) / 0x400) ++
        (unitText (0xDC00 + (n - 0x10000) % 0x400) ++ rest)) = some (Char.ofNat n, rest) := by
  have high : 0xD800 + (n - 0x10000) / 0x400 < 0xDC00 := by omega
  have low : 0xDC00 + (n - 0x10000) % 0x400 < 0xE000 := by omega
  have joins : joinPair (0xD800 + (n - 0x10000) / 0x400) (0xDC00 + (n - 0x10000) % 0x400) = n := by
    unfold joinPair
    omega
  have read := readCode_pair ⟨Nat.le_add_right 0xD800 _, high⟩ ⟨Nat.le_add_right 0xDC00 _, low⟩ rest
  rw [joins] at read
  exact read

/-! Three ways of writing a character. -/

theorem readString_plain {fuel : Nat} {c : Char} (noQuote : c ≠ '"') (noSlash : c ≠ '\\')
    (visible : 32 ≤ c.toNat) (rest : List Char) :
    readString (fuel + 1) (c :: rest) =
      (readString fuel rest).map fun (body, rest) => (c :: body, rest) := by
  have shown : ¬ (c.toNat < 32 || c = '\\') = true := by
    simp [noSlash]
    omega
  rw [readString]
  · simp only [shown, Bool.false_eq_true, if_false, Option.bind_eq_bind]
    cases readString fuel rest <;> rfl
  · exact noQuote
  · exact fun _ slash _ => noSlash slash
  · exact fun _ _ slash _ => noSlash slash

theorem readString_escape {fuel : Nat} {c e : Char} (known : letterEscape e = some c)
    (rest : List Char) :
    readString (fuel + 1) ('\\' :: e :: rest) =
      (readString fuel rest).map fun (body, rest) => (c :: body, rest) := by
  have noCode : e ≠ 'u' := by
    rintro rfl
    cases known
  rw [readString]
  · simp only [known, Option.bind_eq_bind, Option.bind_some]
    cases readString fuel rest <;> rfl
  · exact noCode

theorem readString_code {fuel : Nat} {c : Char} {code rest : List Char}
    (known : readCode code = some (c, rest)) :
    readString (fuel + 1) ('\\' :: 'u' :: code) =
      (readString fuel rest).map fun (body, rest) => (c :: body, rest) := by
  rw [readString]
  simp only [known, Option.bind_eq_bind, Option.bind_some]
  cases readString fuel rest <;> rfl

/-- However a character is written, it is read back. -/
theorem readString_charText (fuel : Nat) (c : Char) (rest : List Char) :
    readString (fuel + 1) (charText c ++ rest) =
      (readString fuel rest).map fun (body, rest) => (c :: body, rest) := by
  have valid := c.valid
  simp only [UInt32.isValidChar, Nat.isValidChar, Char.toNat_val] at valid
  unfold charText
  split
  case h_8 noQuote noSlash _ _ _ _ _ =>
    simp only
    split
    · exact readString_plain noQuote noSlash (by omega) rest
    · split
      · have known := readCode_unit ‹_› (by omega) rest
        rw [Char.ofNat_toNat] at known
        rw [unitText, List.cons_append, List.cons_append]
        exact readString_code known
      · have known := readCode_split (by omega : 0x10000 ≤ c.toNat) (by omega) rest
        rw [Char.ofNat_toNat] at known
        rw [List.append_assoc, unitText, List.cons_append, List.cons_append]
        exact readString_code known
  all_goals exact readString_escape rfl rest

/-- The characters of a string are read back up to the closing quote. -/
theorem readString_body (cs : List Char) {fuel : Nat} (enough : cs.length < fuel)
    (rest : List Char) :
    readString fuel (cs.flatMap charText ++ '"' :: rest) = some (cs, rest) := by
  obtain ⟨fuel, rfl⟩ : ∃ k, fuel = k + 1 := ⟨fuel - 1, by omega⟩
  induction cs generalizing fuel with
  | nil => rfl
  | cons c cs ih =>
    obtain ⟨fuel, rfl⟩ : ∃ k, fuel = k + 1 := ⟨fuel - 1, by simp at enough; omega⟩
    rw [List.flatMap_cons, List.append_assoc, readString_charText,
      ih fuel (by simp at enough ⊢; omega)]
    rfl

theorem length_charText_pos (c : Char) : 0 < (charText c).length := by
  unfold charText
  split
  case h_8 =>
    simp only
    split
    · exact Nat.succ_pos _
    · split <;> exact Nat.succ_pos _
  all_goals exact Nat.succ_pos _

theorem length_le_flatMap_charText (cs : List Char) : cs.length ≤ (cs.flatMap charText).length := by
  induction cs with
  | nil => exact Nat.le_refl _
  | cons c cs ih =>
    have some := length_charText_pos c
    rw [List.flatMap_cons, List.length_append, List.length_cons]
    omega

/-! ## Numbers -/

/-- A numeral ends where no digit, point or power of ten follows. -/
def EndsNumeral (rest : List Char) : Prop :=
  ∀ c ∈ rest.head?, c.isDigit = false ∧ c ≠ '.' ∧ c ≠ 'e' ∧ c ≠ 'E'

theorem endsNumeral_of_blank {c : Char} (blank : isBlank c = true) (cs : List Char) :
    EndsNumeral (c :: cs) := by
  intro d member
  cases member
  simp only [isBlank, Bool.or_eq_true, decide_eq_true_eq] at blank
  rcases blank with ((rfl | rfl) | rfl) | rfl <;> decide

theorem span_digits {ds rest : List Char} (all : AreDigits ds)
    (ends : ∀ c ∈ rest.head?, c.isDigit = false) :
    (ds ++ rest).takeWhile Char.isDigit = ds ∧ (ds ++ rest).dropWhile Char.isDigit = rest := by
  rw [List.takeWhile_append_of_pos all, List.dropWhile_append_of_pos all]
  cases rest with
  | nil => exact ⟨List.append_nil ds, rfl⟩
  | cons c cs => simp [ends c rfl]

theorem readPower_powerText (p : Option Int) (ends : EndsNumeral rest) :
    Numeral.readPower (Numeral.powerText p ++ rest) = (p, rest) := by
  cases p with
  | none =>
    cases rest with
    | nil => rfl
    | cons c cs =>
      obtain ⟨_, _, small, capital⟩ := ends c rfl
      simp [Numeral.powerText, Numeral.readPower, small, capital]
  | some e =>
    obtain ⟨taken, dropped⟩ := span_digits (areDigits_paddedDigits 2 e.natAbs)
      fun c member => (ends c member).1
    have value := digitsValue_paddedDigits 2 e.natAbs
    have nonempty : paddedDigits 2 e.natAbs ≠ [] :=
      List.append_ne_nil_of_right_ne_nil _ (decimalDigits_ne_nil _)
    rw [Numeral.powerText, Double.exponentText]
    generalize paddedDigits 2 e.natAbs = ds at taken dropped value nonempty
    obtain ⟨d, ds, rfl⟩ := List.exists_cons_of_ne_nil nonempty
    rw [List.cons_append] at taken dropped
    by_cases negative : e < 0
    · have value' : -(digitsValue (d :: ds) : Int) = e := by omega
      simp [negative, Numeral.readPower, taken, dropped, value']
    · have value' : (digitsValue (d :: ds) : Int) = e := by omega
      simp [negative, Numeral.readPower, taken, dropped, value']

theorem readFraction_fractionText {f : Option (List Char)}
    (well : ∀ ds ∈ f, ds ≠ [] ∧ AreDigits ds)
    (ends : ∀ c ∈ rest.head?, c.isDigit = false ∧ c ≠ '.') :
    readFraction (Numeral.fractionText f ++ rest) = (f, rest) := by
  cases f with
  | none =>
    change readFraction rest = (none, rest)
    unfold readFraction
    split
    · exact absurd rfl (ends '.' rfl).2
    · rfl
  | some ds =>
    obtain ⟨nonempty, all⟩ := well ds rfl
    obtain ⟨taken, dropped⟩ := span_digits all fun c member => (ends c member).1
    obtain ⟨d, ds, rfl⟩ := List.exists_cons_of_ne_nil nonempty
    have isDigit := all d (List.mem_cons_self ..)
    rw [List.cons_append] at taken dropped
    simp only [Numeral.fractionText, List.cons_append, readFraction, isDigit, if_true, taken,
      dropped]

/-- A numeral is read up to its last digit. -/
theorem readNumber_written {n : Numeral} (well : n.WellWritten) (ends : EndsNumeral rest) :
    readNumber n.negative (n.written ++ rest) =
      some (if n.isInteger then .int n.integer else .atom (.float (.ofNumeral n)), rest) := by
  obtain ⟨all, nonempty, lead, fraction⟩ := well
  have afterFraction : ∀ c ∈ (Numeral.powerText n.power ++ rest).head?,
      c.isDigit = false ∧ c ≠ '.' := by
    cases n.power with
    | none => exact fun c member => ⟨(ends c member).1, (ends c member).2.1⟩
    | some e =>
      intro c member
      cases member
      decide
  have afterWhole : ∀ c ∈ (Numeral.fractionText n.fraction ++
      (Numeral.powerText n.power ++ rest)).head?, c.isDigit = false := by
    cases n.fraction with
    | none => exact fun c member => (afterFraction c member).1
    | some ds =>
      intro c member
      cases member
      decide
  have text : n.written ++ rest = n.whole ++
      (Numeral.fractionText n.fraction ++ (Numeral.powerText n.power ++ rest)) := by
    rw [Numeral.written, List.append_assoc, List.append_assoc]
  have whole : (if n.whole.head? = some '0' then ['0'] else n.whole) = n.whole := by
    split
    · exact (lead ‹_›).symm
    · rfl
  have some : n.whole.isEmpty = false := List.isEmpty_eq_false_iff.mpr nonempty
  rw [text, readNumber]
  simp only [(span_digits all afterWhole).1, whole, some, Bool.false_eq_true, if_false,
    List.drop_left, readFraction_fractionText fraction afterFraction,
    readPower_powerText n.power ends]
  split <;> rfl

/-! ## Scalars as values -/

theorem readWord_of_mem {word : String} {v : Value} (known : (word, v) ∈ words)
    (rest : List Char) : readWord (word.toList ++ rest) = some (v, rest) := by
  simp only [words, List.mem_cons, Prod.mk.injEq, List.not_mem_nil, or_false] at known
  rcases known with ⟨rfl, rfl⟩ | ⟨rfl, rfl⟩ | ⟨rfl, rfl⟩ | ⟨rfl, rfl⟩ | ⟨rfl, rfl⟩ | ⟨rfl, rfl⟩ <;>
    rfl

theorem readWord_eq_none {cs : List Char} (none : ∀ e ∈ words, ¬ e.1.toList <+: cs) :
    readWord cs = .none := by
  refine List.findSome?_eq_none_iff.mpr fun e member => if_neg ?_
  rw [List.isPrefixOf_iff_prefix]
  exact none e member

/-- What a numeral begins with: a digit, or a minus and a digit. -/
inductive StartsNumeral : List Char → Prop where
  | digit {c : Char} {cs : List Char} (isDigit : c.isDigit = true) : StartsNumeral (c :: cs)
  | minus {c : Char} {cs : List Char} (isDigit : c.isDigit = true) : StartsNumeral ('-' :: c :: cs)

theorem readWord_of_startsNumeral {cs : List Char} (starts : StartsNumeral cs) :
    readWord cs = none := by
  refine readWord_eq_none fun e member isPrefix => ?_
  have heads : ∀ e ∈ words, ∃ c ds, e.1.toList = c :: ds ∧ c.isDigit = false ∧
      (c = '-' → ds.head? = some 'I') := by
    simp only [words, List.forall_mem_cons]
    exact ⟨⟨_, _, rfl, rfl, nofun⟩, ⟨_, _, rfl, rfl, nofun⟩, ⟨_, _, rfl, rfl, nofun⟩,
      ⟨_, _, rfl, rfl, nofun⟩, ⟨_, _, rfl, rfl, nofun⟩, ⟨_, _, rfl, rfl, fun _ => rfl⟩, nofun⟩
  obtain ⟨c, ds, word, notDigit, minus⟩ := heads e member
  obtain ⟨t, split⟩ := isPrefix
  rw [word, List.cons_append] at split
  cases starts with
  | digit isDigit =>
    obtain ⟨rfl, _⟩ := List.cons.inj split
    rw [isDigit] at notDigit
    cases notDigit
  | minus isDigit =>
    obtain ⟨rfl, others⟩ := List.cons.inj split
    obtain ⟨ds, rfl⟩ := List.head?_eq_some_iff.mp (minus rfl)
    obtain ⟨rfl, _⟩ := List.cons.inj others
    exact absurd isDigit (by decide)

variable {fuel : Nat}

/-- A value that is no string, list or map is a word or a number. -/
theorem readValue_scalar {c : Char} {cs : List Char} (scalar : c ≠ '"' ∧ c ≠ '[' ∧ c ≠ '\x7b') :
    readValue (fuel + 1) (c :: cs) =
      match readWord (c :: cs), c :: cs with
      | some found, _ => some found
      | none, '-' :: rest => readNumber true rest
      | none, _ => readNumber false (c :: cs) := by
  obtain ⟨noString, noList, noMap⟩ := scalar
  conv => lhs; unfold readValue
  split
  · exact absurd (List.cons.inj ‹_›).1 noString
  · exact absurd (List.cons.inj ‹_›).1 noList
  · exact absurd (List.cons.inj ‹_›).1 noMap
  · rfl

/-- The text of a numeral with its sign. -/
def signed (n : Numeral) : List Char := if n.negative then '-' :: n.written else n.written

theorem exists_digit_written {n : Numeral} (well : n.WellWritten) (rest : List Char) :
    ∃ c cs, n.written ++ rest = c :: cs ∧ c.isDigit = true := by
  obtain ⟨c, cs, split⟩ := List.exists_cons_of_ne_nil well.nonempty
  refine ⟨c, cs ++ (Numeral.fractionText n.fraction ++ Numeral.powerText n.power) ++ rest, ?_,
    well.whole c (split ▸ List.mem_cons_self ..)⟩
  rw [Numeral.written, split]
  rfl

theorem readValue_signed (fuel : Nat) {n : Numeral} (well : n.WellWritten)
    (ends : EndsNumeral rest) :
    readValue (fuel + 1) (signed n ++ rest) =
      some (if n.isInteger then .int n.integer else .atom (.float (.ofNumeral n)), rest) := by
  have read := readNumber_written well ends
  obtain ⟨c, cs, written, isDigit⟩ := exists_digit_written well rest
  have other : c ≠ '"' ∧ c ≠ '[' ∧ c ≠ '\x7b' ∧ c ≠ '-' := by
    refine ⟨?_, ?_, ?_, ?_⟩ <;> (rintro rfl; exact absurd isDigit (by decide))
  obtain ⟨noString, noList, noMap, noSign⟩ := other
  unfold signed
  rw [written] at read
  cases negative : n.negative with
  | true =>
    rw [negative] at read
    rw [if_pos rfl, List.cons_append, written, readValue_scalar (by decide),
      readWord_of_startsNumeral (.minus isDigit)]
    exact read
  | false =>
    rw [negative] at read
    rw [if_neg Bool.false_ne_true, written, readValue_scalar ⟨noString, noList, noMap⟩,
      readWord_of_startsNumeral (.digit isDigit)]
    split
    · cases ‹none = some _›
    · exact absurd (List.cons.inj ‹c :: cs = '-' :: _›).1 noSign
    · exact read

theorem stringText_append (s : String) (rest : List Char) :
    (stringText s).toList ++ rest = '"' :: (s.toList.flatMap charText ++ '"' :: rest) := by
  rw [stringText, String.toList_ofList, List.cons_append, List.cons_append, List.append_assoc]
  rfl

/-- A reader that is given as many steps as there are characters reads a string to its end. -/
theorem readString_quoted (s : String) (rest : List Char) :
    readString ((s.toList.flatMap charText ++ '"' :: rest).length + 1)
      (s.toList.flatMap charText ++ '"' :: rest) = some (s.toList, rest) := by
  have longer := length_le_flatMap_charText s.toList
  refine readString_body s.toList ?_ rest
  rw [List.length_append]
  omega

/-! ## Texts that are read as values -/

/-- A text that a reader does not skip and does not take for a closing mark. -/
def Begins (cs : List Char) : Prop :=
  ∃ c ds, cs = c :: ds ∧ isBlank c = false ∧ c ≠ ']' ∧ c ≠ '\x7d'

/-- Wherever a text stands, it is read as a value. -/
structure ReadsAs (text : String) (v : Value) : Prop where
  begins : Begins text.toList
  reads : ∀ {fuel : Nat} {rest : List Char}, 2 * text.toList.length ≤ fuel → EndsNumeral rest →
    readValue fuel (text.toList ++ rest) = some (v, rest)

theorem ReadsAs.of_scalar {text : String} {v : Value} (begins : Begins text.toList)
    (reads : ∀ (fuel : Nat) (rest : List Char), EndsNumeral rest →
      readValue (fuel + 1) (text.toList ++ rest) = some (v, rest)) : ReadsAs text v := by
  refine ⟨begins, fun {fuel rest} enough ends => ?_⟩
  obtain ⟨c, ds, split, _⟩ := begins
  rw [split, List.length_cons] at enough
  obtain ⟨fuel, rfl⟩ : ∃ k, fuel = k + 1 := ⟨fuel - 1, by omega⟩
  exact reads fuel rest ends

theorem readsAs_word {word : String} {v : Value} (known : (word, v) ∈ words) : ReadsAs word v := by
  have heads : ∀ e ∈ words, ∃ c cs, e.1.toList = c :: cs ∧
      (isBlank c = false ∧ c ≠ ']' ∧ c ≠ '\x7d') ∧ c ≠ '"' ∧ c ≠ '[' ∧ c ≠ '\x7b' := by
    simp only [words, List.forall_mem_cons]
    refine ⟨⟨_, _, rfl, ?_⟩, ⟨_, _, rfl, ?_⟩, ⟨_, _, rfl, ?_⟩, ⟨_, _, rfl, ?_⟩, ⟨_, _, rfl, ?_⟩,
      ⟨_, _, rfl, ?_⟩, nofun⟩ <;> decide
  obtain ⟨c, cs, split, begins, scalar⟩ := heads _ known
  refine .of_scalar ⟨c, cs, split, begins⟩ fun fuel rest _ => ?_
  have read := readWord_of_mem known rest
  rw [split, List.cons_append] at read ⊢
  rw [readValue_scalar scalar, read]

theorem readsAs_stringText (s : String) : ReadsAs (stringText s) (.str s) := by
  have begins : Begins (stringText s).toList := by
    rw [stringText, String.toList_ofList, List.cons_append]
    exact ⟨_, _, rfl, by decide⟩
  refine .of_scalar begins fun fuel rest _ => ?_
  rw [stringText_append, readValue, readString_quoted]
  simp only [Option.bind_eq_bind, Option.bind_some, String.ofList_toList]
  rfl

theorem readsAs_signed {text : String} {n : Numeral} (well : n.WellWritten)
    (written : text.toList = signed n) :
    ReadsAs text (if n.isInteger then .int n.integer else .atom (.float (.ofNumeral n))) := by
  have begins : Begins text.toList := by
    obtain ⟨c, cs, split, isDigit⟩ := exists_digit_written well []
    rw [List.append_nil] at split
    rw [written, signed, split]
    have other : isBlank c = false ∧ c ≠ ']' ∧ c ≠ '\x7d' := by
      refine ⟨?_, ?_, ?_⟩
      · refine Bool.eq_false_iff.mpr fun blank => ?_
        rw [(endsNumeral_of_blank blank [] c rfl).1] at isDigit
        cases isDigit
      · rintro rfl
        exact absurd isDigit (by decide)
      · rintro rfl
        exact absurd isDigit (by decide)
    split
    · exact ⟨_, _, rfl, by decide⟩
    · exact ⟨c, cs, rfl, other⟩
  refine .of_scalar begins fun fuel rest ends => ?_
  rw [written]
  exact readValue_signed fuel well ends

/-- An integer is read back. -/
theorem readsAs_int (i : Int) : ReadsAs (toString i) (.int i) := by
  have natural (negative : Bool) (m : Nat) {text : String}
      (shown : text.toList = if negative then '-' :: decimalDigits m else decimalDigits m) :
      ReadsAs text (.int (if negative then -(m : Int) else m)) := by
    have well : Numeral.WellWritten ⟨negative, decimalDigits m, none, none⟩ := by
      refine ⟨areDigits_decimalDigits m, decimalDigits_ne_nil m, fun zero => ?_, nofun⟩
      by_cases positive : 0 < m
      · exact absurd zero (head?_decimalDigits positive)
      · obtain rfl : m = 0 := by omega
        rfl
    have written : Numeral.written ⟨negative, decimalDigits m, none, none⟩ = decimalDigits m :=
      List.append_nil _
    have value : Numeral.integer ⟨negative, decimalDigits m, none, none⟩ =
        if negative then -(m : Int) else m := by
      rw [Numeral.integer, digitsValue_decimalDigits]
    rw [← value]
    refine readsAs_signed well ?_
    rw [shown, signed, written]
  cases i with
  | ofNat m => exact natural false m Nat.toList_repr
  | negSucc m =>
    refine natural true (m + 1) ?_
    rw [show toString (Int.negSucc m) = "-" ++ (m + 1).repr from rfl, String.toList_append,
      Nat.toList_repr]
    rfl

/-- A double that is no NaN is read back. -/
theorem readsAs_double {x : Double} (number : x.IsNumber) :
    ReadsAs (doubleText x) (.atom (.float x)) := by
  match x, number with
  | .infinity true, _ => exact readsAs_word (by simp [words, doubleText])
  | .infinity false, _ => exact readsAs_word (by simp [words, doubleText])
  | .finite negative mantissa exponent, fits =>
    obtain ⟨n, sign, well, isDouble, text, value⟩ := Double.text_reads fits negative
    have shown : (doubleText (.finite negative mantissa exponent)).toList = signed n := by
      rw [signed, sign, ← text]
      rfl
    have read := readsAs_signed well shown
    rwa [isDouble, if_neg Bool.false_ne_true, value] at read

end Rulebook.Json
