/-!
Maps that remember the order in which keys were first put. Main statements:
* `get?_put`: a key finds what was last put under it;
* `keys_put`: putting keeps the keys as they are or appends a new one.
-/

namespace Rulebook

/-- Entries under pairwise different keys. -/
structure OrderedMap (α β : Type) where
  entries : List (α × β)
  nodup : (entries.map (·.1)).Nodup

namespace OrderedMap

variable {α β : Type}

def empty : OrderedMap α β := ⟨[], List.nodup_nil⟩

def keys (m : OrderedMap α β) : List α := m.entries.map (·.1)

def size (m : OrderedMap α β) : Nat := m.entries.length

variable [DecidableEq α]

/-- What stands under a key. -/
def get? (m : OrderedMap α β) (k : α) : Option β := m.entries.lookup k

/-- Entries with a value put under a key, in the key's place or at the end. -/
def putEntry (k : α) (v : β) : List (α × β) → List (α × β)
  | [] => [(k, v)]
  | (l, w) :: rest => if l = k then (k, v) :: rest else (l, w) :: putEntry k v rest

theorem keys_putEntry (k : α) (v : β) (entries : List (α × β)) :
    (putEntry k v entries).map (·.1) =
      if k ∈ entries.map (·.1) then entries.map (·.1) else entries.map (·.1) ++ [k] := by
  induction entries with
  | nil => simp [putEntry]
  | cons e rest ih =>
    obtain ⟨l, w⟩ := e
    by_cases h : l = k
    · simp [putEntry, h]
    · have h' : k ≠ l := fun e => h e.symm
      simp only [putEntry, if_neg h, List.map_cons, ih, List.mem_cons, h', false_or]
      split <;> simp

theorem nodup_keys_putEntry (k : α) (v : β) {entries : List (α × β)}
    (h : (entries.map (·.1)).Nodup) : ((putEntry k v entries).map (·.1)).Nodup := by
  rw [keys_putEntry]
  split
  · exact h
  · rename_i new
    exact List.nodup_append.2 ⟨h, by simp, fun a ha b hb => by
      rw [List.mem_singleton.1 hb]; exact fun e => new (e ▸ ha)⟩

theorem lookup_putEntry (k : α) (v : β) (entries : List (α × β)) (l : α) :
    (putEntry k v entries).lookup l = if l = k then some v else entries.lookup l := by
  induction entries with
  | nil => grind [putEntry]
  | cons e rest ih => grind [putEntry]

/-- Puts a value under a key. -/
def put (m : OrderedMap α β) (k : α) (v : β) : OrderedMap α β :=
  ⟨putEntry k v m.entries, nodup_keys_putEntry k v m.nodup⟩

theorem keys_put (m : OrderedMap α β) (k : α) (v : β) :
    (m.put k v).keys = if k ∈ m.keys then m.keys else m.keys ++ [k] :=
  keys_putEntry k v m.entries

theorem get?_put (m : OrderedMap α β) (k : α) (v : β) (l : α) :
    (m.put k v).get? l = if l = k then some v else m.get? l :=
  lookup_putEntry k v m.entries l

/-- Puts entries one after another. -/
def putAll (m : OrderedMap α β) (entries : List (α × β)) : OrderedMap α β :=
  entries.foldl (fun m e => m.put e.1 e.2) m

def ofList (entries : List (α × β)) : OrderedMap α β := empty.putAll entries

/-- The first map with all entries of the second put into it. -/
def merge (a b : OrderedMap α β) : OrderedMap α β := a.putAll b.entries

/-- Whether two maps have the same entries, in any order. -/
def sameContents [DecidableEq β] (a b : OrderedMap α β) : Bool :=
  a.size = b.size && a.entries.all fun e => b.get? e.1 = some e.2

end OrderedMap
end Rulebook
