import Mathlib.Data.List.TakeWhile
import Mathlib.Data.List.Infix
import Mathlib.Data.List.Forall2
import Rulebook.Message.Template

/-!
Templates are filled in by a single pass. Main statements:
* `slotAt?_eq_some_iff`: what the scanner takes for a slot is one;
* `pieces_of_cuts`, `cuts_ofPieces`: the pieces of a template are those of a cut at its slots;
* `Cuts.unique`, `Cuts.standsIn_iff`: there is only one such cut, and no slot stands elsewhere;
* `interpolated_once`: the values stand in the places of the slots, and nothing else changes.
-/

namespace Rulebook

theorem joined_eq_intercalate (separator : String) (texts : List String) :
    joined separator texts = separator.intercalate texts := by
  induction texts with
  | nil => rfl
  | cons s rest ih =>
    cases rest with
    | nil => rfl
    | cons t rest =>
      rw [String.intercalate_cons_cons, ← ih]
      rfl

namespace Template

/-! ## Values in messages -/

/-- A text shows a value: the elements of a list, a tuple or a set of either kind with commas between
them, and any other value as its text. -/
inductive Shows : Value → String → Prop where
  | seq (kind : SeqKind) (items : List Value) :
      Shows (.seq kind items) (", ".intercalate (items.map Value.text))
  | set (kind : SetKind) (members : List Value) :
      Shows (.set kind members) (", ".intercalate (members.map Value.text))
  | atom (a : Atom) : Shows (.atom a) (Value.text (.atom a))
  | map (entries : List (Value × Value)) : Shows (.map entries) (Value.text (.map entries))

theorem shows_iff {v : Value} {text : String} : Shows v text ↔ text = display v := by
  constructor
  · intro shows
    cases shows with
    | seq | set => exact (joined_eq_intercalate _ _).symm
    | atom | map => rfl
  · rintro rfl
    cases v with
    | seq kind items =>
      rw [display, joined_eq_intercalate]
      exact .seq kind items
    | set kind members =>
      rw [display, joined_eq_intercalate]
      exact .set kind members
    | atom a => exact .atom a
    | map entries => exact .map entries

theorem forall₂_shows_iff {shown : List Value} {texts : List String} :
    List.Forall₂ Shows shown texts ↔ texts = shown.map display := by
  constructor
  · intro shows
    induction shows with
    | nil => rfl
    | cons first _ ih => rw [List.map_cons, shows_iff.mp first, ih]
  · rintro rfl
    exact List.forall₂_map_right_iff.mpr (List.forall₂_same.mpr fun v _ => shows_iff.mpr rfl)

/-! ## Slots in a text -/

/-- What can stand between the braces of a slot: word characters, at least one. -/
def IsName (name : List Char) : Prop := name ≠ [] ∧ ∀ c ∈ name, isWordChar c = true

instance : DecidablePred IsName := fun name =>
  decidable_of_iff (name ≠ [] ∧ name.all isWordChar = true) (by rw [List.all_eq_true, IsName])

/-- How a slot is written. -/
def slotText (name : List Char) : List Char := '%' :: '\x7b' :: (name ++ ['\x7d'])

/-- A text in which no slot stands anywhere. -/
def Bare (text : List Char) : Prop := ∀ name, IsName name → ¬ slotText name <:+: text

/-- A slot with a name stands in a template between two parts. -/
def StandsIn (template before name after : List Char) : Prop :=
  IsName name ∧ template = before ++ slotText name ++ after

theorem isWordChar_percent : isWordChar '%' = false := by decide +kernel

theorem isWordChar_closing : isWordChar '\x7d' = false := by decide +kernel

theorem slotAt?_eq_some_iff {cs name after : List Char} :
    slotAt? cs = some (name, after) ↔ IsName name ∧ cs = slotText name ++ after := by
  constructor
  · intro found
    unfold slotAt? at found
    split at found
    · rename_i rest
      simp only at found
      split at found
      · cases found
      · rename_i nonempty
        split at found
        · rename_i closed
          simp only [Option.some.injEq, Prod.mk.injEq] at found
          obtain ⟨rfl, rfl⟩ := found
          refine ⟨⟨by simpa using nonempty, fun c => List.mem_takeWhile_imp⟩, ?_⟩
          have whole := List.takeWhile_append_dropWhile (p := isWordChar) (l := rest)
          rw [closed] at whole
          simp [slotText, whole]
        · cases found
    · cases found
  · rintro ⟨⟨nonempty, word⟩, rfl⟩
    have taken : (name ++ '\x7d' :: after).takeWhile isWordChar = name := by
      rw [List.takeWhile_append_of_pos word, List.takeWhile_cons, isWordChar_closing]
      simp
    have dropped : (name ++ '\x7d' :: after).dropWhile isWordChar = '\x7d' :: after := by
      rw [List.dropWhile_append_of_pos word, List.dropWhile_cons, isWordChar_closing]
      simp
    simp [slotAt?, slotText, taken, dropped, nonempty]

theorem IsName.percent_not_mem {name : List Char} (isName : IsName name) : '%' ∉ name := by
  intro member
  have word := isName.2 _ member
  rw [isWordChar_percent] at word
  cases word

/-- A slot that begins in a text does not go on over the beginning of the next slot. -/
theorem prefix_of_prefix_append {name text rest : List Char} (isName : IsName name)
    (nonempty : text ≠ []) (opens : ∀ c, rest.head? = some c → c = '%')
    (begins : slotText name <+: text ++ rest) : slotText name <+: text := by
  obtain ⟨behind, same⟩ := begins
  rcases List.append_eq_append_iff.mp same with ⟨beyond, rfl, _⟩ | ⟨beyond, split, rest_eq⟩
  · exact List.prefix_append _ _
  · cases beyond with
    | nil => exact ⟨[], by simpa using split⟩
    | cons c beyond =>
      obtain rfl := opens c (by rw [rest_eq]; rfl)
      obtain ⟨d, text, rfl⟩ := List.exists_cons_of_ne_nil nonempty
      -- What is behind the first character of a slot has no percent sign.
      have behind : '%' ∈ '\x7b' :: (name ++ ['\x7d']) := by
        rw [(List.cons.inj split).2]
        simp
      simp [isName.percent_not_mem] at behind

theorem Bare.tail {c : Char} {text : List Char} (bare : Bare (c :: text)) : Bare text :=
  fun name isName inside => bare name isName (List.infix_cons inside)

theorem bare_nil : Bare [] := fun _ _ inside => by simp [slotText] at inside

theorem bare_cons {c : Char} {text rest : List Char} (bare : Bare text)
    (missed : slotAt? (c :: (text ++ rest)) = none) : Bare (c :: text) := by
  intro name isName inside
  rcases List.infix_cons_iff.mp inside with ⟨after, begins⟩ | later
  · have found : slotAt? (c :: (text ++ rest)) = some (name, after ++ rest) := by
      refine slotAt?_eq_some_iff.mpr ⟨isName, ?_⟩
      rw [← List.append_assoc, begins, List.cons_append]
    cases missed.symm.trans found
  · exact bare name isName later

/-! ## Pieces -/

theorem pieces_slot {name : List Char} (isName : IsName name) (after : List Char) :
    pieces (slotText name ++ after) = .slot name :: pieces after := by
  have found : slotAt? (slotText name ++ after) = some (name, after) :=
    slotAt?_eq_some_iff.mpr ⟨isName, rfl⟩
  rw [slotText, List.cons_append] at found ⊢
  rw [pieces]
  split
  · rename_i found'
    cases found.symm.trans found'
    rfl
  · rename_i missed
    cases found.symm.trans missed

theorem pieces_bare {text : List Char} (bare : Bare text) {rest : List Char}
    (opens : ∀ c, rest.head? = some c → c = '%') :
    pieces (text ++ rest) = text.map .char ++ pieces rest := by
  induction text with
  | nil => rfl
  | cons c text ih =>
    rw [List.cons_append, pieces]
    split
    · rename_i name after found
      obtain ⟨isName, same⟩ := slotAt?_eq_some_iff.mp found
      have begins : slotText name <+: c :: text :=
        prefix_of_prefix_append isName (List.cons_ne_nil _ _) opens ⟨after, same.symm⟩
      exact absurd begins.isInfix (bare name isName)
    · rw [ih bare.tail, List.map_cons, List.cons_append]

/-! ## Cuts -/

/-- A text cut at slots: what stands before the first of them, and the name of each slot with what
stands behind it. -/
structure Cut where
  start : List Char
  slots : List (List Char × List Char)

namespace Cut

/-- The text that the cut puts together. -/
def text (cut : Cut) : List Char := cut.start ++ cut.slots.flatMap fun s => slotText s.1 ++ s.2

/-- The names of the slots in order. -/
def names (cut : Cut) : List String := cut.slots.map fun s => String.ofList s.1

/-- The text with other texts in the places of the slots. -/
def filled (cut : Cut) (shown : List String) : String :=
  String.ofList cut.start
    ++ String.join (cut.slots.zipWith (fun s text => text ++ String.ofList s.2) shown)

/-- The slots of the text and the single characters between them. -/
def pieces (cut : Cut) : List Piece :=
  cut.start.map .char ++ cut.slots.flatMap fun s => .slot s.1 :: s.2.map .char

/-- The cut of a template: its slots, with no further one in the texts between them. -/
structure Cuts (cut : Cut) (template : List Char) : Prop where
  whole : cut.text = template
  named : ∀ s ∈ cut.slots, IsName s.1
  bareStart : Bare cut.start
  bareBehind : ∀ s ∈ cut.slots, Bare s.2

/-- The cut into given pieces. -/
def ofPieces : List Piece → Cut
  | [] => ⟨[], []⟩
  | .char c :: rest => ⟨c :: (ofPieces rest).start, (ofPieces rest).slots⟩
  | .slot name :: rest => ⟨[], (name, (ofPieces rest).start) :: (ofPieces rest).slots⟩

theorem ofPieces_chars (text : List Char) (rest : List Piece) :
    ofPieces (text.map .char ++ rest) = ⟨text ++ (ofPieces rest).start, (ofPieces rest).slots⟩ := by
  induction text with
  | nil => rfl
  | cons c text ih => rw [List.map_cons, List.cons_append, ofPieces, ih, List.cons_append]

theorem ofPieces_slots (slots : List (List Char × List Char)) :
    ofPieces (slots.flatMap fun s => .slot s.1 :: s.2.map .char) = ⟨[], slots⟩ := by
  induction slots with
  | nil => rfl
  | cons s slots ih =>
    rw [List.flatMap_cons, List.cons_append, ofPieces, ofPieces_chars, ih, List.append_nil]

theorem ofPieces_pieces (cut : Cut) : ofPieces cut.pieces = cut := by
  rw [pieces, ofPieces_chars, ofPieces_slots, List.append_nil]

theorem text_cons (start name behind : List Char) (slots : List (List Char × List Char)) :
    text ⟨start, (name, behind) :: slots⟩ = start ++ (slotText name ++ text ⟨behind, slots⟩) := by
  simp [text]

theorem Cuts.tail {start name behind : List Char} {slots : List (List Char × List Char)}
    {template : List Char} (cuts : Cuts ⟨start, (name, behind) :: slots⟩ template) :
    Cuts ⟨behind, slots⟩ (text ⟨behind, slots⟩) where
  whole := rfl
  named s member := cuts.named s (List.mem_cons_of_mem _ member)
  bareStart := cuts.bareBehind _ (List.mem_cons_self ..)
  bareBehind s member := cuts.bareBehind s (List.mem_cons_of_mem _ member)

theorem pieces_of_cuts {cut : Cut} {template : List Char} (cuts : cut.Cuts template) :
    Template.pieces template = cut.pieces := by
  obtain ⟨start, slots⟩ := cut
  induction slots generalizing start template with
  | nil =>
    have same : template = start ++ [] := cuts.whole.symm
    rw [same, pieces_bare cuts.bareStart (by simp), Template.pieces]
    rfl
  | cons s slots ih =>
    obtain ⟨name, behind⟩ := s
    have isName : IsName name := cuts.named _ (List.mem_cons_self ..)
    have same : template = start ++ (slotText name ++ text ⟨behind, slots⟩) :=
      cuts.whole.symm.trans (text_cons start name behind slots)
    have opens (c : Char) : (slotText name ++ text ⟨behind, slots⟩).head? = some c → c = '%' := by
      rintro ⟨⟩
      rfl
    rw [same, pieces_bare cuts.bareStart opens, pieces_slot isName, ih behind cuts.tail]
    simp [pieces]

theorem cuts_ofPieces (template : List Char) :
    (ofPieces (Template.pieces template)).Cuts template := by
  induction template using Template.pieces.induct with
  | case1 =>
    rw [Template.pieces]
    exact ⟨rfl, nofun, bare_nil, nofun⟩
  | case2 c rest name after found ih =>
    obtain ⟨isName, same⟩ := slotAt?_eq_some_iff.mp found
    rw [same, pieces_slot isName, ofPieces]
    refine ⟨?_, List.forall_mem_cons.mpr ⟨isName, ih.named⟩, bare_nil,
      List.forall_mem_cons.mpr ⟨ih.bareStart, ih.bareBehind⟩⟩
    have whole := ih.whole
    generalize ofPieces (Template.pieces after) = cut at whole ⊢
    rw [← whole, text_cons]
    rfl
  | case3 c rest missed ih =>
    have cut : Template.pieces (c :: rest) = .char c :: Template.pieces rest := by
      rw [Template.pieces]
      split
      · rename_i found
        cases missed.symm.trans found
      · rfl
    rw [cut, ofPieces]
    refine ⟨?_, ih.named, ?_, ih.bareBehind⟩
    · rw [← congrArg (c :: ·) ih.whole]
      rfl
    · refine bare_cons ih.bareStart (?_ : slotAt? (c :: text _) = none)
      rw [ih.whole]
      exact missed

theorem Cuts.unique {a b : Cut} {template : List Char} (left : a.Cuts template)
    (right : b.Cuts template) : a = b := by
  rw [← ofPieces_pieces a, ← pieces_of_cuts left, pieces_of_cuts right, ofPieces_pieces]

/-- Cuts of what stands before a slot and behind it give the cut of the whole. -/
theorem Cuts.join {a b : Cut} {before name after : List Char} (left : a.Cuts before)
    (isName : IsName name) (right : b.Cuts after) :
    Cuts ⟨a.start, a.slots ++ (name, b.start) :: b.slots⟩ (before ++ slotText name ++ after) where
  whole := by
    rw [← left.whole, ← right.whole]
    simp [text]
  named := List.forall_mem_append.mpr ⟨left.named, List.forall_mem_cons.mpr ⟨isName, right.named⟩⟩
  bareStart := left.bareStart
  bareBehind := List.forall_mem_append.mpr
    ⟨left.bareBehind, List.forall_mem_cons.mpr ⟨right.bareStart, right.bareBehind⟩⟩

/-- One of the slots of a cut, between what it puts together before the slot and behind it. -/
def Has (cut : Cut) (before name after : List Char) : Prop :=
  ∃ earlier behind later, cut.slots = earlier ++ (name, behind) :: later ∧
    before = text ⟨cut.start, earlier⟩ ∧ after = text ⟨behind, later⟩

/-- The slots of a cut are all that stand in the template. -/
theorem Cuts.standsIn_iff {cut : Cut} {template : List Char} (cuts : cut.Cuts template)
    {before name after : List Char} :
    StandsIn template before name after ↔ cut.Has before name after := by
  constructor
  · rintro ⟨isName, rfl⟩
    have left := cuts_ofPieces before
    have right := cuts_ofPieces after
    obtain rfl := cuts.unique (left.join isName right)
    exact ⟨_, _, _, rfl, left.whole.symm, right.whole.symm⟩
  · rintro ⟨earlier, behind, later, split, rfl, rfl⟩
    refine ⟨cuts.named (name, behind) (by simp [split]), ?_⟩
    rw [← cuts.whole, text, split]
    simp [text]

theorem prefix_text (start : List Char) (earlier : List (List Char × List Char))
    (name behind : List Char) (later : List (List Char × List Char)) :
    text ⟨start, earlier⟩ ++ slotText name <+: text ⟨start, earlier ++ (name, behind) :: later⟩ :=
  ⟨text ⟨behind, later⟩, by simp [text]⟩

theorem Has.apart {cut : Cut} {before name after before' name' after' : List Char}
    (first : cut.Has before name after) (second : cut.Has before' name' after') :
    (before = before' ∧ name = name') ∨ before ++ slotText name <+: before' ∨
      before' ++ slotText name' <+: before := by
  obtain ⟨earlier, behind, later, split, rfl, _⟩ := first
  obtain ⟨earlier', behind', later', split', rfl, _⟩ := second
  rcases List.append_eq_append_iff.mp (split.symm.trans split') with
    ⟨beyond, rfl, same⟩ | ⟨beyond, rfl, same⟩
  · cases beyond with
    | nil =>
      cases same
      simp
    | cons s beyond =>
      cases same
      exact .inr (.inl (prefix_text ..))
  · cases beyond with
    | nil =>
      cases same
      simp
    | cons s beyond =>
      cases same
      exact .inr (.inr (prefix_text ..))

end Cut

/-! ## Filling in -/

/-- The text of some pieces; the name of the first slot without a value if there is one. -/
def spell (values : OrderedMap String Value) (ps : List Piece) : Except String String :=
  String.join <$> ps.mapM (fill values)

theorem spell_cons (values : OrderedMap String Value) (p : Piece) (ps : List Piece) :
    spell values (p :: ps) = do return (← fill values p) ++ (← spell values ps) := by
  unfold spell
  rw [List.mapM_cons]
  cases fill values p with
  | error e => rfl
  | ok text =>
    cases ps.mapM (fill values) with
    | error e => rfl
    | ok texts => exact congrArg Except.ok (String.join_cons ..)

theorem spell_chars (values : OrderedMap String Value) (text : List Char) (ps : List Piece) :
    spell values (text.map .char ++ ps) = (String.ofList text ++ ·) <$> spell values ps := by
  induction text with
  | nil => cases h : spell values ps <;> simp [h, Functor.map, Except.map]
  | cons c text ih =>
    rw [List.map_cons, List.cons_append, spell_cons, ih]
    cases spell values ps with
    | error e => rfl
    | ok rest =>
      refine congrArg Except.ok ?_
      rw [← String.append_assoc, ← String.ofList_append]
      rfl

theorem spell_slot_of_some {values : OrderedMap String Value} {name : List Char} {v : Value}
    (found : values.get? (String.ofList name) = some v) (ps : List Piece) :
    spell values (.slot name :: ps) = (display v ++ ·) <$> spell values ps := by
  rw [spell_cons, fill, found]
  cases spell values ps <;> rfl

theorem spell_slot_of_none {values : OrderedMap String Value} {name : List Char}
    (missing : values.get? (String.ofList name) = none) (ps : List Piece) :
    spell values (.slot name :: ps) = .error (String.ofList name) := by
  rw [spell_cons, fill, missing]
  rfl

namespace Cut

/-- The first name without a value. -/
def missing? (values : OrderedMap String Value) (cut : Cut) : Option String :=
  cut.names.find? fun name => (values.get? name).isNone

variable {values : OrderedMap String Value}

theorem spell_of_values {cut : Cut} {shown : List Value}
    (known : cut.names.map values.get? = shown.map some) :
    spell values cut.pieces = .ok (cut.filled (shown.map display)) := by
  obtain ⟨start, slots⟩ := cut
  rw [pieces, spell_chars, filled]
  suffices spell values (slots.flatMap fun s => .slot s.1 :: s.2.map .char) =
      .ok (String.join (slots.zipWith (fun s text => text ++ String.ofList s.2)
        (shown.map display))) by rw [this]; rfl
  induction slots generalizing shown with
  | nil => rfl
  | cons s slots ih =>
    cases shown with
    | nil => cases known
    | cons v shown =>
      obtain ⟨found, known⟩ := List.cons.inj known
      rw [List.flatMap_cons, List.cons_append, spell_slot_of_some found, spell_chars, ih known,
        List.map_cons, List.zipWith_cons_cons, String.join_cons, String.append_assoc]
      rfl

theorem spell_of_missing {cut : Cut} {name : String} (missing : cut.missing? values = some name) :
    spell values cut.pieces = .error name := by
  obtain ⟨start, slots⟩ := cut
  rw [pieces, spell_chars]
  suffices spell values (slots.flatMap fun s => .slot s.1 :: s.2.map .char) = .error name by
    rw [this]; rfl
  induction slots with
  | nil => cases missing
  | cons s slots ih =>
    rw [List.flatMap_cons, List.cons_append]
    rw [missing?, names, List.map_cons, List.find?_cons] at missing
    cases found : values.get? (String.ofList s.1) with
    | none =>
      rw [found] at missing
      cases missing
      exact spell_slot_of_none found _
    | some v =>
      rw [found] at missing
      rw [spell_slot_of_some found, spell_chars, ih missing]
      rfl

end Cut

theorem interpolate_eq (template : String) (values : OrderedMap String Value) :
    interpolate template values =
      (spell values (pieces template.toList)).mapError fun name => ⟨template, name⟩ := by
  unfold interpolate spell
  cases (pieces template.toList).mapM (fill values) <;> rfl

theorem isSome_iff_exists_values {values : OrderedMap String Value} {names : List String} :
    (∀ name ∈ names, (values.get? name).isSome = true) ↔
      ∃ shown : List Value, names.map values.get? = shown.map some := by
  constructor
  · intro known
    induction names with
    | nil => exact ⟨[], rfl⟩
    | cons name names ih =>
      obtain ⟨v, found⟩ := Option.isSome_iff_exists.mp (known name (List.mem_cons_self ..))
      obtain ⟨shown, others⟩ := ih fun n member => known n (List.mem_cons_of_mem _ member)
      exact ⟨v :: shown, by rw [List.map_cons, others, found]; rfl⟩
  · rintro ⟨shown, known⟩ name member
    have found : values.get? name ∈ shown.map Option.some := known ▸ List.mem_map_of_mem member
    obtain ⟨v, _, same⟩ := List.mem_map.mp found
    exact Option.isSome_iff_exists.mpr ⟨v, same.symm⟩

namespace Cut

variable {values : OrderedMap String Value}

theorem missing?_eq_none_iff {cut : Cut} :
    cut.missing? values = none ↔ ∀ name ∈ cut.names, (values.get? name).isSome = true := by
  simp [missing?, List.find?_eq_none, Option.isSome_iff_ne_none]

theorem exists_values {cut : Cut} (complete : cut.missing? values = none) :
    ∃ shown : List Value, cut.names.map values.get? = shown.map some :=
  isSome_iff_exists_values.mp (missing?_eq_none_iff.mp complete)

theorem missing?_congr {values' : OrderedMap String Value}
    (same : ∀ name, (values'.get? name).isSome = (values.get? name).isSome) (cut : Cut) :
    cut.missing? values' = cut.missing? values := by
  unfold missing?
  congr 1
  funext name
  rw [← Option.not_isSome, same, Option.not_isSome]

variable {cut : Cut} {template : String}

theorem Cuts.interpolate_eq_error_iff (cuts : cut.Cuts template.toList) {e : UnknownSlot} :
    interpolate template values = .error e ↔
      e.template = template ∧ cut.missing? values = some e.slot := by
  rw [interpolate_eq, pieces_of_cuts cuts]
  cases missing : cut.missing? values with
  | some name =>
    rw [spell_of_missing missing]
    constructor
    · rintro ⟨⟩
      exact ⟨rfl, rfl⟩
    · rintro ⟨rfl, ⟨⟩⟩
      rfl
  | none =>
    obtain ⟨shown, known⟩ := exists_values missing
    rw [spell_of_values known]
    exact iff_of_false nofun nofun

theorem Cuts.interpolate_eq_ok_iff (cuts : cut.Cuts template.toList) {text : String} :
    interpolate template values = .ok text ↔
      ∃ shown : List Value, cut.names.map values.get? = shown.map some ∧
        text = cut.filled (shown.map display) := by
  rw [interpolate_eq, pieces_of_cuts cuts]
  constructor
  · intro filled
    cases missing : cut.missing? values with
    | some name =>
      rw [spell_of_missing missing] at filled
      cases filled
    | none =>
      obtain ⟨shown, known⟩ := exists_values missing
      rw [spell_of_values known] at filled
      cases filled
      exact ⟨shown, known, rfl⟩
  · rintro ⟨shown, known, rfl⟩
    rw [spell_of_values known]
    rfl

theorem Cuts.interpolate_eq_ok_iff_shows (cuts : cut.Cuts template.toList) {text : String} :
    interpolate template values = .ok text ↔
      ∃ (shown : List Value) (texts : List String),
        cut.names.map values.get? = shown.map some ∧ List.Forall₂ Shows shown texts ∧
          text = cut.filled texts := by
  simp only [cuts.interpolate_eq_ok_iff, forall₂_shows_iff, exists_and_left, exists_eq_left]

theorem Cuts.exists_interpolate_iff (cuts : cut.Cuts template.toList) :
    (∃ text, interpolate template values = .ok text) ↔
      ∀ name ∈ cut.names, (values.get? name).isSome = true := by
  rw [isSome_iff_exists_values]
  constructor
  · rintro ⟨text, filled⟩
    obtain ⟨shown, known, _⟩ := cuts.interpolate_eq_ok_iff.mp filled
    exact ⟨shown, known⟩
  · rintro ⟨shown, known⟩
    exact ⟨_, cuts.interpolate_eq_ok_iff.mpr ⟨shown, known, rfl⟩⟩

theorem cuts_of_bare {text : List Char} (bare : Bare text) : Cuts ⟨text, []⟩ text :=
  ⟨List.append_nil text, nofun, bare, nofun⟩

end Cut

/-! ## What is no slot -/

theorem bare_of_unclosed {text : List Char} (unclosed : '\x7d' ∉ text) : Bare text := by
  intro name _ inside
  refine unclosed (inside.subset ?_)
  simp [slotText]

/-- Braces around anything else than a name. -/
theorem bare_slotText {inner : List Char} (other : ¬ IsName inner) (closed : '\x7d' ∉ inner)
    (opened : '%' ∉ inner) : Bare (slotText inner) := by
  intro name isName inside
  rcases List.infix_cons_iff.mp inside with ⟨after, same⟩ | later
  · have same : name ++ '\x7d' :: after = inner ++ '\x7d' :: [] := by
      simpa [slotText] using same
    obtain ⟨rfl, _⟩ := (List.append_cons_inj_of_notMem closed List.not_mem_nil).mp same.symm
    exact other isName
  · have percent : '%' ∈ '\x7b' :: (inner ++ ['\x7d']) := later.subset (List.mem_cons_self ..)
    simp [opened] at percent

/-- **Templates are filled in by a single pass.** A template has one cut at its slots: they do not
overlap, they are all the slots that stand in it anywhere, and between them there is none. The
filled in text is the template with a text that shows the value of each name in the place of its slot,
exactly if all of them have a value; the first name without one is reported otherwise. So what the values
hold is never read as a template, and whatever is no slot stays as it is. -/
theorem interpolated_once (template : String) (values : OrderedMap String Value) :
    (∃! cut : Cut, cut.Cuts template.toList) ∧
    (∀ before name after before' name' after', StandsIn template.toList before name after →
      StandsIn template.toList before' name' after' →
      (before = before' ∧ name = name') ∨ before ++ slotText name <+: before' ∨
        before' ++ slotText name' <+: before) ∧
    (∀ cut : Cut, cut.Cuts template.toList →
      (∀ before name after,
        StandsIn template.toList before name after ↔ cut.Has before name after) ∧
      ((∃ text, interpolate template values = .ok text) ↔
        ∀ name ∈ cut.names, (values.get? name).isSome = true) ∧
      (∀ text, interpolate template values = .ok text ↔
        ∃ (shown : List Value) (texts : List String),
          cut.names.map values.get? = shown.map some ∧ List.Forall₂ Shows shown texts ∧
            text = cut.filled texts) ∧
      (∀ e, interpolate template values = .error e ↔
        e.template = template ∧ cut.missing? values = some e.slot)) ∧
    (∀ values' : OrderedMap String Value,
      (∀ name, (values'.get? name).isSome = (values.get? name).isSome) →
      ∀ e, interpolate template values' = .error e ↔ interpolate template values = .error e) ∧
    (Bare template.toList → interpolate template values = .ok template) ∧
    (∀ text, '\x7d' ∉ text → Bare text) ∧
    (∀ inner, ¬ IsName inner → '%' ∉ inner → '\x7d' ∉ inner → Bare (slotText inner)) := by
  have cuts := Cut.cuts_ofPieces template.toList
  refine ⟨⟨_, cuts, fun other right => right.unique cuts⟩, ?_, ?_, ?_, ?_, ?_, ?_⟩
  · intro before name after before' name' after' first second
    exact (cuts.standsIn_iff.mp first).apart (cuts.standsIn_iff.mp second)
  · intro cut cuts
    exact ⟨fun before name after => cuts.standsIn_iff, cuts.exists_interpolate_iff,
      fun text => cuts.interpolate_eq_ok_iff_shows, fun e => cuts.interpolate_eq_error_iff⟩
  · intro values' same e
    rw [cuts.interpolate_eq_error_iff, cuts.interpolate_eq_error_iff, Cut.missing?_congr same]
  · intro bare
    refine (Cut.cuts_of_bare bare).interpolate_eq_ok_iff.mpr ⟨[], rfl, ?_⟩
    simp [Cut.filled]
  · exact fun text => bare_of_unclosed
  · exact fun inner other opened closed => bare_slotText other closed opened

/-- A value that looks like a slot, a list, a set of which a member looks like a slot, and openers that
belong to none. -/
theorem interpolated_once_strayOpeners :
    Cut.Cuts ⟨['%', '\x7b'], [(['a'], [':', ' ']), (['b'], ['%', '\x7b', '\x7d']), (['c'], [])]⟩
        "%\x7b%\x7ba\x7d: %\x7bb\x7d%\x7b\x7d%\x7bc\x7d".toList ∧
      interpolate "%\x7b%\x7ba\x7d: %\x7bb\x7d%\x7b\x7d%\x7bc\x7d"
        (.ofList [("b", .list [.str "\x7d", .int 2]), ("a", .str "b\x7d%\x7bb\x7d"),
          ("c", .set .frozen [.int 1, .str "%\x7ba\x7d"])]) =
        .ok "%\x7bb\x7d%\x7bb\x7d: \x7d, 2%\x7b\x7d1, %\x7ba\x7d" := by
  have cuts : Cut.Cuts
      ⟨['%', '\x7b'], [(['a'], [':', ' ']), (['b'], ['%', '\x7b', '\x7d']), (['c'], [])]⟩
      "%\x7b%\x7ba\x7d: %\x7bb\x7d%\x7b\x7d%\x7bc\x7d".toList := by
    refine ⟨by decide, by decide +kernel, bare_of_unclosed (by decide), ?_⟩
    have behind : Bare ['%', '\x7b', '\x7d'] :=
      bare_slotText (fun isName => isName.1 rfl) nofun nofun
    simpa using ⟨bare_of_unclosed (by decide), behind, bare_of_unclosed List.not_mem_nil⟩
  refine ⟨cuts, ?_⟩
  refine (((interpolated_once _ _).2.2.1 _ cuts).2.2.1 _).mpr
    ⟨[.str "b\x7d%\x7bb\x7d", .list [.str "\x7d", .int 2],
      .set .frozen [.int 1, .str "%\x7ba\x7d"]], _, rfl,
      .cons (.atom _) (.cons (.seq _ _) (.cons (.set _ _) .nil)), ?_⟩
  decide +kernel

end Template
end Rulebook
