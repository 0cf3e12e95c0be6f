import Mathlib.Data.List.Nodup
import Rulebook.Check.Format
import Rulebook.Proofs.Report.Count
import Rulebook.Proofs.Report.Nesting
import Rulebook.Proofs.Report.Traversal

/-!
What is left of a report when it is shown as data, where keys are texts. Main statements:
* `dataOfFields_perm`: of the fields with one text the last one is shown, and the others are lost;
* `statements_of_apart`: a report whose keys have different texts at every depth is shown in full;
* `apart_report`: this is so below the names of a document, whatever failed;
* `rendering_of_results`: so a document and its messages lose something if and only if a string and
  a name that is none have the same text;
* `numberedName_lost`: two checks of which only one is shown.
-/

namespace Rulebook

/-! ## Counting what data shows -/

namespace Value

def isList : Value → Bool
  | .list _ => true
  | _ => false

mutual

/-- How many statements an item of a report shows as data: a map of nothing but lists is a report of
its own, and everything else is one statement. -/
def statements : Value → Nat
  | .map entries => if entries.all (·.2.isList) then statementsUnder entries else 1
  | _ => 1

def statementsIn : List Value → Nat
  | [] => 0
  | v :: rest => v.statements + statementsIn rest

def statementsUnder : List (Value × Value) → Nat
  | [] => 0
  | (_, .seq _ items) :: rest => statementsIn items + statementsUnder rest
  | _ :: rest => statementsUnder rest

end

theorem statementsUnder_perm {entries others : List (Value × Value)} (same : entries.Perm others) :
    statementsUnder entries = statementsUnder others := by
  have step (e : Value × Value) (rest : List (Value × Value)) :
      statementsUnder (e :: rest) = statementsUnder [e] + statementsUnder rest := by
    obtain ⟨k, v⟩ := e
    cases v <;> simp [statementsUnder]
  induction same with
  | nil => rfl
  | cons e _ ih => rw [step, ih, ← step]
  | swap e e' rest =>
    rw [step, step e rest, step e (e' :: rest), step e' rest]
    omega
  | trans _ _ first second => exact first.trans second

/-- Entries of which none is under a text all stay when those under it are left out. -/
theorem filter_text_ne {entries : List (Value × Value)} (keyed : ∀ e ∈ entries, ∃ s, e.1 = .str s)
    {s : String} (absent : .str s ∉ entries.map (·.1)) :
    entries.filter (·.1.text != s) = entries := by
  refine List.filter_eq_self.mpr fun e member => bne_iff_ne.mpr fun isText => absent ?_
  obtain ⟨t, key⟩ := keyed e member
  have known : e.1 ∈ entries.map (·.1) := List.mem_map_of_mem member
  rw [key] at isText known
  exact isText ▸ known

/-- What is put under a text takes the place of what was there. -/
theorem putText_perm {entries : List (Value × Value)} (keyed : ∀ e ∈ entries, ∃ s, e.1 = .str s)
    (nodup : (entries.map (·.1)).Nodup) (s : String) (v : Value) :
    (putText s v entries).Perm ((.str s, v) :: entries.filter (·.1.text != s)) := by
  unfold putText
  rcases put_str_cases keyed s v with ⟨before, old, after, rfl, put⟩ | ⟨absent, put⟩
  · obtain ⟨keyedBefore, others⟩ := List.forall_mem_append.mp keyed
    obtain ⟨_, keyedAfter⟩ := List.forall_mem_cons.mp others
    rw [List.map_append, List.map_cons, List.perm_middle.nodup_iff, List.nodup_cons,
      List.mem_append, not_or] at nodup
    obtain ⟨⟨notBefore, notAfter⟩, _⟩ := nodup
    have own : ((Value.str s).text != s) = false := bne_self_eq_false s
    rw [put, List.filter_append, List.filter_cons, own, if_neg Bool.false_ne_true,
      filter_text_ne keyedBefore notBefore, filter_text_ne keyedAfter notAfter]
    exact List.perm_middle
  · rw [put, filter_text_ne keyed absent]
    exact List.perm_append_singleton _ _

end Value

/-! ## Texts of names -/

theorem Int.text_injective {a b : Int} (same : a.repr = b.repr) : a = b := by
  have digits (m n : Nat) (same : m.repr = n.repr) : m = n := by
    rw [← Nat.ofDigitChars_toDigits (n := m) (by decide : 1 < 10) (by decide), ← Nat.toList_repr,
      same, Nat.toList_repr, Nat.ofDigitChars_toDigits (by decide) (by decide)]
  have signed (m n : Nat) : m.repr ≠ "-" ++ n.repr := by
    intro same
    have isSign : '-' ∈ m.repr.toList := by simp [same]
    rw [Nat.toList_repr] at isSign
    exact absurd (Nat.isDigit_of_mem_toDigits (by decide) (by decide) isSign) (by decide)
  match a, b with
  | .ofNat m, .ofNat n => exact congrArg _ (digits m n same)
  | .ofNat m, .negSucc n => exact absurd same (signed m _)
  | .negSucc m, .ofNat n => exact absurd same.symm (signed n _)
  | .negSucc m, .negSucc n =>
    have equal := digits _ _ ((String.append_right_inj "-").mp same)
    exact congrArg _ (Nat.succ.inj equal)

/-- The text of an integer has digits and a sign. -/
theorem Int.isDigit_of_mem_repr {n : Int} {c : Char} (member : c ∈ n.repr.toList) :
    c.isDigit = true ∨ c = '-' := by
  have digit {m : Nat} (inside : c ∈ m.repr.toList) : c.isDigit = true :=
    Nat.isDigit_of_mem_toDigits (by decide) (by decide) (Nat.toList_repr ▸ inside)
  match n with
  | .ofNat m => exact .inl (digit member)
  | .negSucc m =>
    have split : (Int.negSucc m).repr = "-" ++ (m + 1).repr := rfl
    rw [split, String.toList_append] at member
    rcases List.mem_append.mp member with sign | member
    · exact .inr (List.mem_singleton.mp sign)
    · exact .inl (digit member)

/-- Two names with one text are the same, or one of them is a string and the other is none. -/
theorem Value.eq_or_isStr_ne {n m : Value} (hn : n.isName true = true) (hm : m.isName true = true)
    (same : n.text = m.text) : n = m ∨ n.isStr ≠ m.isStr := by
  have unlike (a : Int) : (Value.int a).text ≠ Value.null.text := by
    intro same
    have inside : 'N' ∈ (Value.int a).text.toList := same ▸ by decide
    exact absurd (Int.isDigit_of_mem_repr inside) (by decide)
  rcases eq_of_isName hn with rfl | ⟨a, rfl⟩ | ⟨a, rfl⟩ <;>
    rcases eq_of_isName hm with rfl | ⟨b, rfl⟩ | ⟨b, rfl⟩
  case inl.inl => exact .inl rfl
  case inl.inr.inr => exact absurd same.symm (unlike b)
  case inr.inl.inr.inl => exact .inl (congrArg _ same)
  case inr.inr.inl => exact absurd same (unlike a)
  case inr.inr.inr.inr => exact .inl (congrArg _ (Int.text_injective same))
  all_goals exact .inr nofun

theorem Value.eq_str_text {v : Value} (isStr : v.isStr = true) : v = .str v.text := by
  unfold Value.isStr at isStr
  split at isStr
  · rfl
  · cases isStr

/-! ## Keys as texts -/

namespace Fields

variable {α : Type}

/-- The texts of the names. -/
def texts (fields : Fields α) : List String := fields.map (·.1.text)

/-- The fields whose text no later field has. -/
def kept : Fields α → Fields α
  | [] => []
  | f :: rest => if f.1.text ∈ texts rest then kept rest else f :: kept rest

theorem kept_eq_self {fields : Fields α} (apart : fields.texts.Nodup) : fields.kept = fields := by
  induction fields with
  | nil => rfl
  | cons f rest ih =>
    obtain ⟨new, others⟩ := List.nodup_cons.mp apart
    have last : f.1.text ∉ texts rest := new
    rw [kept, if_neg last, ih others]

theorem kept_sublist (fields : Fields α) : fields.kept.Sublist fields := by
  induction fields with
  | nil => exact .refl _
  | cons f rest ih =>
    rw [kept]
    split
    · exact ih.cons _
    · exact ih.cons_cons _

theorem length_leaves_kept_le (fields : Fields α) :
    (Report.leavesOfFields fields.kept).length ≤ (Report.leavesOfFields fields).length := by
  induction fields with
  | nil => exact Nat.le_refl _
  | cons f rest ih =>
    rw [kept]
    split <;> simp only [Report.leavesOfFields, List.length_append] <;> omega

/-- Where every field says something, nothing is lost only if no two texts are the same. -/
theorem length_leaves_kept_eq_iff {fields : Fields α}
    (filled : ∀ f ∈ fields, Report.leavesOfItems f.2 ≠ []) :
    (Report.leavesOfFields fields.kept).length = (Report.leavesOfFields fields).length ↔
      fields.texts.Nodup := by
  refine ⟨fun all => ?_, fun apart => by rw [kept_eq_self apart]⟩
  induction fields with
  | nil => exact .nil
  | cons f rest ih =>
    obtain ⟨first, others⟩ := List.forall_mem_cons.mp filled
    have some := List.length_pos_iff.mpr first
    have fewer := length_leaves_kept_le rest
    rw [kept] at all
    split at all
    · simp only [Report.leavesOfFields, List.length_append, List.length_map] at all
      omega
    · rename_i new
      simp only [Report.leavesOfFields, List.length_append] at all
      exact List.nodup_cons.mpr ⟨new, ih others (by omega)⟩

end Fields

namespace Report

variable {α : Type} {leaf : α → Value}

/-- A field as it is shown. -/
def shown (leaf : α → Value) (f : Value × List (Report α)) : Value × Value :=
  (.str f.1.text, .list (dataOfItems leaf f.2))

/-- Of the fields with one text the last one is shown. -/
theorem dataOfFields_perm (leaf : α → Value) (fields : Fields α) {found : List (Value × Value)}
    (keyed : ∀ e ∈ found, ∃ s, e.1 = .str s) (nodup : (found.map (·.1)).Nodup) :
    (dataOfFields leaf fields found).Perm
      (fields.kept.map (shown leaf) ++ found.filter (·.1.text ∉ fields.texts)) := by
  induction fields generalizing found with
  | nil => simp [dataOfFields, Fields.kept, Fields.texts]
  | cons f rest ih =>
    obtain ⟨key, items⟩ := f
    have put := Value.putText_perm keyed nodup key.text (.list (dataOfItems leaf items))
    have keyed' : ∀ e ∈ Value.putText key.text (.list (dataOfItems leaf items)) found,
        ∃ s, e.1 = .str s := by
      intro e member
      rcases Value.mem_put_str keyed member with rfl | member
      · exact ⟨_, rfl⟩
      · exact keyed e member
    have nodup' := Value.nodup_put_str keyed nodup key.text (.list (dataOfItems leaf items))
    have before := ih keyed' nodup'
    have after := (put.filter (·.1.text ∉ Fields.texts rest)).append_left
      ((Fields.kept rest).map (shown leaf))
    refine before.trans (after.trans ?_)
    have texts : Fields.texts ((key, items) :: rest) = key.text :: Fields.texts rest := rfl
    have own : (Value.str key.text).text = key.text := rfl
    have left : (found.filter (·.1.text != key.text)).filter (·.1.text ∉ Fields.texts rest) =
        found.filter (·.1.text ∉ Fields.texts ((key, items) :: rest)) := by
      rw [List.filter_filter, texts]
      refine List.filter_congr fun e _ => ?_
      by_cases same : e.1.text = key.text <;> simp [same]
    by_cases again : key.text ∈ Fields.texts rest
    · simp only [Fields.kept, again, if_true, List.filter_cons, own, not_true, decide_false,
        Bool.false_eq_true, if_false, left]
      exact .refl _
    · simp only [Fields.kept, again, if_false, List.filter_cons, own, not_false_eq_true,
        decide_true, if_true, left]
      exact List.perm_middle

theorem statementsUnder_shown (fields : Fields α)
    (full : ∀ f ∈ fields, Value.statementsIn (dataOfItems leaf f.2) = (leavesOfItems f.2).length) :
    Value.statementsUnder (fields.map (shown leaf)) = (leavesOfFields fields).length := by
  induction fields with
  | nil => rfl
  | cons f rest ih =>
    obtain ⟨first, others⟩ := List.forall_mem_cons.mp full
    simp only [List.map_cons, shown, Value.statementsUnder, leavesOfFields, List.length_append,
      List.length_map, first, ih others]

/-- Of fields whose items are shown in full, all that is kept is shown. -/
theorem statements_dataOfFields (fields : Fields α)
    (full : ∀ f ∈ fields, Value.statementsIn (dataOfItems leaf f.2) = (leavesOfItems f.2).length) :
    (Value.map (dataOfFields leaf fields [])).statements =
      (leavesOfFields fields.kept).length := by
  have perm : (dataOfFields leaf fields []).Perm (fields.kept.map (shown leaf)) := by
    have keyed : ∀ e ∈ ([] : List (Value × Value)), ∃ s, e.1 = .str s := nofun
    have all := dataOfFields_perm leaf fields keyed .nil
    rwa [List.filter_nil, List.append_nil] at all
  have lists : (dataOfFields leaf fields []).all (·.2.isList) = true := by
    refine List.all_eq_true.mpr fun e member => ?_
    obtain ⟨f, _, rfl⟩ := List.mem_map.mp (perm.mem_iff.mp member)
    rfl
  rw [Value.statements, if_pos lists, Value.statementsUnder_perm perm]
  exact statementsUnder_shown _ fun f member => full f (fields.kept_sublist.subset member)

mutual

/-- Inside a report, no two keys of one level have the same text. -/
def Apart : Report α → Prop
  | .leaf _ => True
  | .nested fields => (Fields.texts fields).Nodup ∧ ApartFields fields

def ApartItems : List (Report α) → Prop
  | [] => True
  | item :: rest => item.Apart ∧ ApartItems rest

/-- Below the names of some fields, no two keys of one level have the same text. -/
def ApartFields : List (Value × List (Report α)) → Prop
  | [] => True
  | (_, items) :: rest => ApartItems items ∧ ApartFields rest

end

theorem apartFields_iff {fields : Fields α} :
    ApartFields fields ↔ ∀ f ∈ fields, ApartItems f.2 := by
  induction fields with
  | nil => exact iff_of_true trivial nofun
  | cons f rest ih => rw [ApartFields, List.forall_mem_cons, ih]

theorem apartItems_iff {items : List (Report α)} :
    ApartItems items ↔ ∀ item ∈ items, item.Apart := by
  induction items with
  | nil => exact iff_of_true trivial nofun
  | cons item rest ih => rw [ApartItems, List.forall_mem_cons, ih]

mutual

/-- A report whose keys have different texts is shown in full. -/
theorem statements_of_apart {r : Report α} (apart : r.Apart)
    (one : ∀ l ∈ r.leaves, (leaf l.2).statements = 1) :
    (r.toData leaf).statements = r.leaves.length := by
  match r with
  | .leaf a => exact one _ (List.mem_singleton_self _)
  | .nested fields =>
    obtain ⟨nodup, inner⟩ := apart
    rw [toData, statements_dataOfFields fields (full_of_apartFields inner one),
      Fields.kept_eq_self nodup, leaves]

theorem statements_of_apartItems {items : List (Report α)} (apart : ApartItems items)
    (one : ∀ l ∈ leavesOfItems items, (leaf l.2).statements = 1) :
    Value.statementsIn (dataOfItems leaf items) = (leavesOfItems items).length := by
  match items with
  | [] => rfl
  | item :: rest =>
    obtain ⟨first, others⟩ := List.forall_mem_append.mp one
    rw [dataOfItems, Value.statementsIn, statements_of_apart apart.1 first,
      statements_of_apartItems apart.2 others, leavesOfItems, List.length_append]

theorem full_of_apartFields {fields : Fields α} (apart : ApartFields fields)
    (one : ∀ l ∈ leavesOfFields fields, (leaf l.2).statements = 1) :
    ∀ f ∈ fields, Value.statementsIn (dataOfItems leaf f.2) = (leavesOfItems f.2).length := by
  match fields with
  | [] => exact nofun
  | (key, items) :: rest =>
    obtain ⟨first, others⟩ := List.forall_mem_append.mp one
    have inner : ∀ l ∈ leavesOfItems items, (leaf l.2).statements = 1 := fun l member =>
      first (key :: l.1, l.2) (List.mem_map_of_mem member)
    exact List.forall_mem_cons.mpr
      ⟨statements_of_apartItems apart.1 inner, full_of_apartFields apart.2 others⟩

end

/-! ## Matching reports -/

variable {β : Type} {R : α → β → Prop}

theorem MatchesFields.names {fields : Fields α} {fields' : Fields β}
    (same : MatchesFields R fields fields') : fields'.map (·.1) = fields.map (·.1) := by
  cases same with
  | nil => rfl
  | cons _ others => rw [List.map_cons, List.map_cons, others.names]

theorem texts_eq_map (fields : Fields α) : fields.texts = (fields.map (·.1)).map Value.text := by
  rw [List.map_map]
  rfl

theorem MatchesFields.texts {fields : Fields α} {fields' : Fields β}
    (same : MatchesFields R fields fields') : Fields.texts fields' = Fields.texts fields := by
  rw [texts_eq_map, same.names, ← texts_eq_map]

mutual

theorem Matches.apart {r : Report α} {r' : Report β} (same : Matches R r r') (apart : r.Apart) :
    r'.Apart := by
  cases same with
  | leaf _ => trivial
  | nested same => exact ⟨same.texts ▸ apart.1, same.apart apart.2⟩

theorem MatchesItems.apart {items : List (Report α)} {items' : List (Report β)}
    (same : MatchesItems R items items') (apart : ApartItems items) : ApartItems items' := by
  cases same with
  | nil => trivial
  | cons first others => exact ⟨first.apart apart.1, others.apart apart.2⟩

theorem MatchesFields.apart {fields : Fields α} {fields' : Fields β}
    (same : MatchesFields R fields fields') (apart : ApartFields fields) : ApartFields fields' := by
  cases same with
  | nil => trivial
  | cons first others => exact ⟨first.apart apart.1, others.apart apart.2⟩

end

/-- What is kept of reports that match does so, too. -/
theorem MatchesFields.kept {fields : Fields α} {fields' : Fields β}
    (same : MatchesFields R fields fields') :
    MatchesFields R (Fields.kept fields) (Fields.kept fields') := by
  cases same with
  | nil => exact .nil
  | cons first others =>
    rw [Fields.kept, Fields.kept, others.texts]
    split
    · exact others.kept
    · exact .cons first others.kept

end Report

/-! ## Documents -/

namespace Failure

theorem reportFields_eq_map (around : Value) (children : List (Value × Failure)) :
    reportFields around children = children.map fun c =>
      .nested [(ownName around c.1, c.2.report (ownName around c.1))] := by
  induction children with
  | nil => rfl
  | cons c rest ih => rw [reportFields, ih, List.map_cons]

/-- Positions have different texts, and a failure of a map has a report with one key. -/
theorem apart_report {f : Failure} (shaped : f.Shaped) (around : Value) :
    Report.ApartItems (f.report around) := by
  induction shaped generalizing around with
  | @check f _ kind childless _ =>
    obtain ⟨_, _, _, _, _, _, _⟩ := f
    rcases kind with rfl | rfl <;> exact ⟨trivial, trivial⟩
  | @each f positions _ isEach _ labels rising _ ih =>
    obtain ⟨_, _, _, _, _, _, children⟩ := f
    cases isEach
    refine ⟨⟨?_, ?_⟩, trivial⟩
    · have texts : Fields.texts (reportPositions around children) =
          positions.map fun (i : Nat) => (i : Int).repr := by
        have keys := congrArg (List.map Value.text) labels
        rw [List.map_map, List.map_map] at keys
        rw [reportPositions_eq_map, Fields.texts, List.map_map]
        exact keys
      rw [texts]
      refine List.pairwise_map.mpr (rising.imp fun less same => ?_)
      have equal := Int.text_injective same
      omega
    · rw [reportPositions_eq_map, Report.apartFields_iff]
      intro field member
      obtain ⟨c, inside, rfl⟩ := List.mem_map.mp member
      exact ih c inside around
  | @set f _ isSet _ _ _ ih =>
    obtain ⟨_, _, _, _, _, _, children⟩ := f
    cases isSet
    rw [report, reportFields_eq_map, Report.apartItems_iff]
    intro item member
    obtain ⟨c, inside, rfl⟩ := List.mem_map.mp member
    exact ⟨List.pairwise_singleton _ _, ih c inside _, trivial⟩

end Failure

theorem Entry.statements_toData (e : Entry) : e.toData.statements = 1 := by
  simp [toData, Value.statements, Value.isList]

namespace Document

/-- Whether a string and a name that is none have the same text. -/
def Clash (doc : Document) : Prop :=
  ∃ name ∈ doc.map (·.1), name.isStr = false ∧ .str name.text ∈ doc.map (·.1)

variable {fs : List Failure}

theorem apart_grouped (shaped : ∀ f ∈ fs, f.Shaped) :
    Report.ApartFields (Fields.grouped (parts fs)) := by
  rw [Report.apartFields_iff]
  rintro ⟨name, items⟩ member
  rw [(accounts_grouped shaped).items name items member, Report.apartItems_iff]
  intro item inside
  obtain ⟨f, known, inside⟩ := List.mem_flatMap.mp inside
  have apart := Failure.apart_report (shaped f (List.mem_filter.mp known).1) name
  exact Report.apartItems_iff.mp apart item inside

theorem filled_grouped (shaped : ∀ f ∈ fs, f.Shaped) :
    ∀ field ∈ Fields.grouped (parts fs), Report.leavesOfItems field.2 ≠ [] := by
  rintro ⟨name, items⟩ member
  have accounts := accounts_grouped shaped
  have named : name ∈ distinctNames (fs.map (·.name)) :=
    accounts.names ▸ List.mem_map_of_mem member
  obtain ⟨f, known, rfl⟩ := List.mem_map.mp (mem_of_mem_distinctNames named)
  have own : f ∈ fs.filter fun g => f.name.sameKey g.name :=
    List.mem_filter.mpr ⟨known, Value.sameKey_self (shaped f known).named⟩
  rw [accounts.items f.name items member, Report.leavesOfItems_flatMap, Ne,
    List.flatMap_eq_nil_iff]
  intro none
  have counted := Failure.length_leaves_report (shaped f known) f.name
  rw [none f own] at counted
  exact f.leaves_ne_nil (List.eq_nil_of_length_eq_zero counted.symm)

theorem nodup_texts_iff (shaped : ∀ f ∈ fs, f.Shaped) :
    (Fields.texts (Fields.grouped (parts fs))).Nodup ↔ ¬ Clash (Fields.grouped (parts fs)) := by
  have keys : (Fields.grouped (parts fs)).map (·.1) = distinctNames ((parts fs).map (·.1)) :=
    Fields.keys_map ..
  have named := keys ▸ (areNames_parts shaped).distinctNames
  have nodup := keys ▸ nodup_distinctNames (areNames_parts shaped)
  rw [Report.texts_eq_map, List.nodup_map_iff_inj_on nodup]
  constructor
  · rintro different ⟨name, known, notStr, other⟩
    have same : name = .str name.text := different _ known _ other rfl
    rw [same] at notStr
    cases notStr
  · intro noClash n hn m hm same
    rcases Value.eq_or_isStr_ne (named n hn) (named m hm) same with equal | unlike
    · exact equal
    · refine absurd ?_ noClash
      cases first : n.isStr with
      | true =>
        have second : m.isStr = false := by simpa [first] using unlike.symm
        rw [Value.eq_str_text first, same] at hn
        exact ⟨m, hm, second, hn⟩
      | false =>
        have second : m.isStr = true := by simpa [first] using unlike.symm
        rw [Value.eq_str_text second, ← same] at hm
        exact ⟨n, hn, first, hm⟩

end Document

/-- **What a rendered report keeps.** The document of results that compiled rules came to, and any
messages for it, are shown as data without the fields whose text a later one has too; of all others
every entry and every message is shown, at any depth. So something is lost if and only if a string
and a name that is none have the same text. -/
theorem rendering_of_results {results : List Result} (obtained : ∀ r ∈ results, r.Obtained) :
    ∃ doc, Document.ofResults results = .ok doc ∧
      ∀ r : CheckResult, r.errors = doc →
        Report.MatchesFields (fun _ m => ∃ s, m = .str s) doc r.messages →
        (r.toData.follow [.field (.str "errors")]).statements =
            (Report.leavesOfFields r.errors.kept).length ∧
          (r.toData.follow [.field (.str "messages")]).statements =
            (Report.leavesOfFields r.messages.kept).length ∧
          ((r.toData.follow [.field (.str "errors")]).statements =
            (Report.leavesOfFields r.errors).length ↔ ¬ doc.Clash) ∧
          ((r.toData.follow [.field (.str "messages")]).statements =
            (Report.leavesOfFields r.messages).length ↔ ¬ doc.Clash) := by
  have shaped : ∀ f ∈ failures results, f.Shaped := fun f => shaped_of_mem_failures obtained
  refine ⟨_, Document.ofResults_of_shaped shaped, fun r errors messages => ?_⟩
  have apart := Document.apart_grouped shaped
  have filled := Fields.length_leaves_kept_eq_iff (Document.filled_grouped shaped)
  rw [Document.nodup_texts_iff shaped] at filled
  have strings : ∀ l ∈ Report.leavesOfFields r.messages, (id l.2 : Value).statements = 1 := by
    intro l member
    obtain ⟨i, found⟩ := List.getElem?_of_mem member
    obtain ⟨_, _, _, s, isText⟩ := exists_related messages.leaves.flip found
    rw [isText]
    rfl
  have shownErrors : (r.toData.follow [.field (.str "errors")]).statements =
      (Report.leavesOfFields r.errors.kept).length :=
    Report.statements_dataOfFields _
      (Report.full_of_apartFields (errors ▸ apart) fun l _ => l.2.statements_toData)
  have shownMessages : (r.toData.follow [.field (.str "messages")]).statements =
      (Report.leavesOfFields r.messages.kept).length :=
    Report.statements_dataOfFields _ (Report.full_of_apartFields (messages.apart apart) strings)
  refine ⟨shownErrors, shownMessages, ?_, ?_⟩
  · rw [shownErrors, errors, filled]
  · rw [shownMessages, ← messages.kept.leaves.length_eq, ← messages.leaves.length_eq, filled]

/-- The one name of a broken order clashes with no other. -/
theorem rendering_of_results_brokenOrder :
    ∃ broken doc, (orderRule.run (.ofAnswers standardAnswer) brokenOrder).1 = .ok broken ∧
      Document.ofResults [broken] = .ok doc ∧
      ∀ r : CheckResult, r.errors = doc →
        r.messages = Report.traverseFields (m := Id) (fun e => pure (.str e.predicate)) doc →
        (r.toData.follow [.field (.str "errors")]).statements = 2 ∧
          (r.toData.follow [.field (.str "messages")]).statements = 2 := by
  have came : ∃ broken doc, (orderRule.run (.ofAnswers standardAnswer) brokenOrder).1 = .ok broken ∧
      Document.ofResults [broken] = .ok doc ∧ doc.map (·.1) = [.str "items"] ∧
      (Report.leavesOfFields doc).length = 2 := ⟨_, _, rfl, rfl, rfl, rfl⟩
  obtain ⟨broken, doc, came, made, names, two⟩ := came
  refine ⟨broken, doc, came, made, fun r errors messages => ?_⟩
  have told := Report.matches_traverseFields_pure (fun e : Entry => Value.str e.predicate) doc
  rw [← messages] at told
  have shown : Report.MatchesFields (fun _ m => ∃ s, m = .str s) doc r.messages :=
    told.imp fun e m isText => ⟨e.predicate, isText⟩
  have noClash : ¬ doc.Clash := by
    rintro ⟨name, known, notStr, _⟩
    rw [names, List.mem_singleton] at known
    rw [known] at notStr
    cases notStr
  obtain ⟨doc', made', all⟩ := rendering_of_results
    (List.forall_mem_singleton.mpr (Document.obtained_orderRule came))
  cases made.symm.trans made'
  obtain ⟨_, _, entries, texts⟩ := all r errors shown
  rw [entries.mpr noClash, texts.mpr noClash, errors, two, ← told.leaves.length_eq, two]
  exact ⟨rfl, rfl⟩

/-- A check of the field 1 and one of the field "1": there are two entries and two messages, and
data shows one of each. -/
theorem numberedName_lost :
    let rules := [Rule.val (.str "1") (.ofStandard (.unary .integer)) [],
      .val (.int 1) (.ofStandard (.unary .integer)) []]
    (Compiler.ofRegistry .standard).compileAll (Rule.toNodes rules) = .ok rules ∧
      ∃ (results : List Result) (doc : Document),
        (rules.mapM fun rule : Rule => (rule.run (.ofAnswers standardAnswer) (.map [])).1) =
          .ok results ∧
        Document.ofResults results = .ok doc ∧ doc.map (·.1) = [.str "1", .int 1] ∧
        (Report.leavesOfFields doc).length = 2 ∧ (doc.toData Entry.toData).statements = 1 ∧
        ∀ m m' : String,
          (Fields.toData id [(.str "1", [.leaf (.str m)]), (.int 1, [.leaf (.str m')])]) =
            .map [(.str "1", .list [.str m'])] := by
  refine ⟨?_, _, _, rfl, rfl, rfl, rfl, ?_, fun m m' => rfl⟩
  · have lawful := Compiler.ofRegistry_lawful .standard
    refine Compiler.compileAll_of_derivesAll (.cons ?_ (.cons ?_ .nil)) <;>
      exact Compiler.derives_toNode lawful (by decide +kernel)
  · rfl

end Rulebook
