/-!
# Maps in key order

A map from texts to values, kept as the list of its entries in ascending key order, each key once.  Keys
are ordered by their code points, which is also the order of their UTF-8 bytes.

* `insert` — the entry of a key is set, an earlier entry of that key is replaced;
* `ofEntries` — the map of a list of entries, where the last entry of a key counts;
* `find?` — the value of a key;
* `find?_insert` — what is found after a key is set;
* `Ascending`, `ascending_insert` — the order of the keys, which stays when a key is set;
* `OrderedMap` — **a map together with the order of its keys**.
-/

namespace PlanBrowser

namespace KeyMap

variable {α : Type}

/-- The map with `key` set to `value`. -/
def insert (key : String) (value : α) : List (String × α) → List (String × α)
  | [] => [(key, value)]
  | (k, v) :: rest =>
    if key = k then (key, value) :: rest
    else if key < k then (key, value) :: (k, v) :: rest
    else (k, v) :: insert key value rest

/-- The map that a list of entries describes; of two entries of one key the later one counts. -/
def ofEntries (entries : List (String × α)) : List (String × α) :=
  entries.foldl (fun m e => insert e.1 e.2 m) []

/-- The value of a key. -/
def find? (key : String) : List (String × α) → Option α
  | [] => none
  | (k, v) :: rest => if key = k then some v else find? key rest

/-- **What a key is set to is found**, and no other key notices. -/
theorem find?_insert (key k : String) (value : α) (m : List (String × α)) :
    find? k (insert key value m) = if key = k then some value else find? k m := by
  induction m with
  | nil => simp only [insert, find?, eq_comm]
  | cons e rest ih =>
    obtain ⟨k', v⟩ := e
    rw [insert]
    split
    · next h => subst h; simp only [find?, eq_comm]; split <;> rfl
    · next h =>
      split
      · simp only [find?, eq_comm]
      · simp only [find?, ih]
        split
        · next hk => subst hk; simp [h]
        · rfl

/-! ## The order of keys -/

/-- **The entries are in ascending order of their keys**, each key once. -/
def Ascending (m : List (String × α)) : Prop :=
  m.Pairwise fun a b => a.1 < b.1

theorem mem_insert {key : String} {value : α} {m : List (String × α)} {e : String × α}
    (h : e ∈ insert key value m) : e = (key, value) ∨ e ∈ m := by
  induction m with
  | nil => exact .inl (List.mem_singleton.mp h)
  | cons e' rest ih =>
    rw [insert] at h
    split at h
    · exact (List.mem_cons.mp h).imp_right (List.mem_cons_of_mem _)
    split at h
    · exact List.mem_cons.mp h
    · rcases List.mem_cons.mp h with rfl | h
      · exact .inr List.mem_cons_self
      · exact (ih h).imp_right (List.mem_cons_of_mem _)

/-- **A map stays in order.** -/
theorem ascending_insert {m : List (String × α)} (h : Ascending m) (key : String) (value : α) :
    Ascending (insert key value m) := by
  induction m with
  | nil => exact List.pairwise_singleton _ _
  | cons e rest ih =>
    obtain ⟨hfirst, hrest⟩ := List.pairwise_cons.mp h
    rw [insert]
    split
    · next heq => exact List.pairwise_cons.mpr ⟨heq ▸ hfirst, hrest⟩
    split
    · next hlt =>
      refine List.pairwise_cons.mpr ⟨List.forall_mem_cons.mpr ⟨hlt, fun e' he' => ?_⟩, h⟩
      exact String.lt_trans hlt (hfirst e' he')
    · next hne hnot =>
      have hlt : e.1 < key := Std.lt_of_le_of_ne (String.not_lt.mp hnot) (Ne.symm hne)
      refine List.pairwise_cons.mpr ⟨fun e' he' => ?_, ih hrest⟩
      rcases mem_insert he' with rfl | he'
      · exact hlt
      · exact hfirst e' he'

end KeyMap

/-- **A map from texts to values**, with its entries in ascending order of their keys. -/
structure OrderedMap (α : Type) where
  entries : List (String × α)
  ascending : KeyMap.Ascending entries
  deriving Repr, DecidableEq

namespace OrderedMap

variable {α : Type}

/-- The map without entries. -/
def empty : OrderedMap α :=
  ⟨[], List.Pairwise.nil⟩

instance : Inhabited (OrderedMap α) :=
  ⟨empty⟩

/-- The map with `key` set to `value`. -/
def insert (m : OrderedMap α) (key : String) (value : α) : OrderedMap α :=
  ⟨KeyMap.insert key value m.entries, KeyMap.ascending_insert m.ascending key value⟩

/-- The map that a list of entries describes; of two entries of one key the later one counts. -/
def ofEntries (es : List (String × α)) : OrderedMap α :=
  es.foldl (fun m e => m.insert e.1 e.2) empty

theorem entries_ofEntries (es : List (String × α)) : (ofEntries es).entries = KeyMap.ofEntries es := by
  have hfold (m : OrderedMap α) : (es.foldl (fun m e => m.insert e.1 e.2) m).entries =
      es.foldl (fun m e => KeyMap.insert e.1 e.2 m) m.entries := by
    induction es generalizing m with
    | nil => rfl
    | cons e es ih => exact ih (m.insert e.1 e.2)
  exact hfold empty

/-- Two maps with the same entries are the same map. -/
theorem ext_entries {m m' : OrderedMap α} (h : m.entries = m'.entries) : m = m' := by
  cases m
  cases m'
  cases h
  rfl

end OrderedMap

end PlanBrowser
