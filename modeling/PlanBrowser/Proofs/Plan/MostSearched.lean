import Mathlib.Data.List.Nodup
import Mathlib.Data.List.Perm.Basic
import PlanBrowser.Proofs.Json.Same
import PlanBrowser.Proofs.Plan.Message
import PlanBrowser.Proofs.Text.ByteOrder

/-!
# The place searched for most often

The searches of a user are gone through once, in the order of their keys, and the best one so far is kept.  It is given up
for one that was made more often, and only for such a one; so of those made equally often the one with the first key stays.
A search that was never made is never kept.

The map of the searches knows nothing of the order in which they were listed, and so neither does the place.

* `OrderedMap.ofEntries_eq_of_perm` — entries with different keys make one map, in whatever order they are listed;
* `Favorites.Leads`, `Favorites.leads_unique` — **the search that leads**, and there is one at most;
* `Favorites.Decides` — what is known of the searches so far, with `Favorites.decides_prefer` for one more of them, and
  `Favorites.decides_foldl` for all;
* `Favorites.read_eq_of_perm` — **texts that list the same searches** are read as the same searches;
* `Favorites.most_searched_leads` — **the place is that of the search that leads**, and there is none if no search was made.
-/

namespace PlanBrowser

open Json

/-! ## Entries in any order -/

namespace KeyMap

variable {α : Type}

/-- Two entries of a map with the same key are the same entry. -/
theorem Ascending.eq_of_key_eq {m : List (String × α)} (h : Ascending m) {a b : String × α} (ha : a ∈ m) (hb : b ∈ m)
    (hkey : a.1 = b.1) : a = b := by
  have hkeys : (m.map (·.1)).Nodup := List.pairwise_map.mpr (h.imp fun hlt => String.ne_of_lt hlt)
  exact List.inj_on_of_nodup_map hkeys ha hb hkey

end KeyMap

/-- **Entries with different keys make one map**, in whatever order they are listed. -/
theorem OrderedMap.ofEntries_eq_of_perm {α : Type} {es es' : List (String × α)} (h : es.Perm es')
    (hkeys : (es.map (·.1)).Nodup) : ofEntries es = ofEntries es' := by
  have hkeys' : (es'.map (·.1)).Nodup := (h.map (·.1)).nodup hkeys
  have hperm : (ofEntries es).entries.Perm (ofEntries es').entries := by
    rw [entries_ofEntries, entries_ofEntries]
    exact (KeyMap.ofEntries_perm hkeys).trans (h.trans (KeyMap.ofEntries_perm hkeys').symm)
  refine ext_entries (hperm.eq_of_pairwise (fun a b _ _ hab hba => ?_) (ofEntries es).ascending (ofEntries es').ascending)
  exact absurd hba (String.lt_asymm hab)

namespace Json

/-- Items give their values in one way. -/
theorem InOrder.unique {vs : List Written} {os os' : List (Option Written)} (h : InOrder vs os) (h' : InOrder vs os')
    (hlength : os.length = os'.length) : os = os' := by
  induction vs generalizing os os' with
  | nil =>
    rw [List.eq_replicate_of_mem h, List.eq_replicate_of_mem h', hlength]
  | cons v vs ih =>
    rcases os with _ | ⟨_ | w, os⟩
    · cases h
    · cases h
    rcases os' with _ | ⟨_ | w', os'⟩
    · cases h'
    · cases h'
    obtain ⟨rfl, h⟩ := h
    obtain ⟨rfl, h'⟩ := h'
    rw [ih h h' (Nat.succ.inj hlength)]

/-- **A value gives one thing** for each of some names. -/
theorem Written.Gives.unique {names : List String} {v : Written} {os os' : List (Option Written)} (h : v.Gives names os)
    (h' : v.Gives names os') : os = os' := by
  cases v with
  | object ms => exact (forall₂_valuesOf.mp h).2.trans (forall₂_valuesOf.mp h').2.symm
  | list vs => exact h.2.unique h'.2 (h.1.trans h'.1.symm)
  | _ => cases h

/-- Members that are listed in another order tell the same map, if their names are different. -/
theorem IsMap.of_perm {α : Type} {R : Written → α → Prop} {ms ms' : List (String × Written)} {m : OrderedMap α}
    (h : IsMap R (.object ms) m) (hperm : ms.Perm ms') (hnames : (ms.map (·.1)).Nodup) : IsMap R (.object ms') m := by
  obtain ⟨_, es, heq, hes, rfl⟩ := h
  cases heq
  obtain ⟨es', hes', hperm'⟩ := List.perm_comp_forall₂ hperm.symm hes
  have hkeys : ms.map (·.1) = es.map (·.1) := by
    have hsame : List.Forall₂ (fun m e => m.1 = e.1) ms es := hes.imp fun m e he => he.1.symm
    rwa [← List.forall₂_eq_eq_eq, List.forall₂_map_left_iff, List.forall₂_map_right_iff]
  exact ⟨ms', es', rfl, hes', OrderedMap.ofEntries_eq_of_perm hperm'.symm (hkeys ▸ hnames)⟩

end Json

namespace Favorites

open Text.Utf8 (bytesOf bytesOf_le_iff)

/-! ## The search that leads -/

/-- **The search that leads**: it was made, none was made more often, and its key is the first one, in the order of bytes, of
the keys of all that were made as often. -/
structure Leads (searches : List (String × SearchCount)) (e : String × SearchCount) : Prop where
  mem : e ∈ searches
  made : 0 < e.2.count
  most : ∀ e' ∈ searches, e'.2.count ≤ e.2.count
  first : ∀ e' ∈ searches, e'.2.count = e.2.count → bytesOf e.1 ≤ bytesOf e'.1

/-- **What is known of the searches** if this is the best of them: it leads, or none of them was made. -/
def Decides (searches : List (String × SearchCount)) : Option SearchCount → Prop
  | none => ∀ e ∈ searches, e.2.count = 0
  | some c => ∃ e, Leads searches e ∧ e.2 = c

section

variable {searches rest : List (String × SearchCount)} {e e' : String × SearchCount} {best : Option SearchCount}

/-- There is at most one search that leads. -/
theorem leads_unique (h : KeyMap.Ascending searches) (he : Leads searches e) (he' : Leads searches e') : e = e' := by
  have hcount : e.2.count = e'.2.count := UInt64.le_antisymm (he'.most e he.mem) (he.most e' he'.mem)
  have hle : e.1 ≤ e'.1 := bytesOf_le_iff.mp (he.first e' he'.mem hcount.symm)
  have hge : e'.1 ≤ e.1 := bytesOf_le_iff.mp (he'.first e he.mem hcount)
  exact h.eq_of_key_eq he.mem he'.mem (String.le_antisymm hle hge)

/-- A search leads that was made more often than all before it. -/
theorem leads_of_lt (hmore : ∀ e' ∈ searches, e'.2.count < e.2.count) (hmade : 0 < e.2.count) :
    Leads (searches ++ [e]) e where
  mem := List.mem_append_right searches List.mem_cons_self
  made := hmade
  most := by
    rw [List.forall_mem_append, List.forall_mem_singleton]
    exact ⟨fun e' he' => UInt64.le_of_lt (hmore e' he'), UInt64.le_refl _⟩
  first := by
    rw [List.forall_mem_append, List.forall_mem_singleton]
    exact ⟨fun e' he' hcount => absurd hcount (UInt64.ne_of_lt (hmore e' he')),
      fun _ => bytesOf_le_iff.mpr (String.le_refl _)⟩

/-- A search that leads goes on to lead if the next one, with a later key, was not made more often. -/
theorem Leads.concat (h : Leads searches e) (hlast : e.1 < e'.1) (hcount : e'.2.count ≤ e.2.count) :
    Leads (searches ++ [e']) e where
  mem := List.mem_append_left _ h.mem
  made := h.made
  most := by
    rw [List.forall_mem_append, List.forall_mem_singleton]
    exact ⟨h.most, hcount⟩
  first := by
    rw [List.forall_mem_append, List.forall_mem_singleton]
    exact ⟨h.first, fun _ => bytesOf_le_iff.mpr (String.not_lt.mp (String.lt_asymm hlast))⟩

/-- **One more search**, whose key comes after those of all others. -/
theorem decides_prefer (h : Decides searches best) (hlast : ∀ e' ∈ searches, e'.1 < e.1) :
    Decides (searches ++ [e]) (SearchCount.prefer best e.2) := by
  cases best with
  | none =>
    have hzero : ∀ e' ∈ searches, e'.2.count = 0 := h
    rw [SearchCount.prefer]
    split
    · next hmade => exact ⟨e, leads_of_lt (fun e' he' => (hzero e' he').symm ▸ hmade) hmade, rfl⟩
    · next hmade =>
      show ∀ e' ∈ searches ++ [e], e'.2.count = 0
      rw [List.forall_mem_append, List.forall_mem_singleton]
      exact ⟨hzero, UInt64.le_zero_iff.mp (UInt64.not_lt.mp hmade)⟩
  | some c =>
    obtain ⟨b, hb, rfl⟩ := h
    rw [SearchCount.prefer]
    split
    · next hmore =>
      have hmost : ∀ e' ∈ searches, e'.2.count < e.2.count := fun e' he' => UInt64.lt_of_le_of_lt (hb.most e' he') hmore
      exact ⟨e, leads_of_lt hmost (UInt64.lt_trans hb.made hmore), rfl⟩
    · next hmore => exact ⟨b, hb.concat (hlast b hb.mem) (UInt64.not_lt.mp hmore), rfl⟩

/-- **All searches**, in the order of their keys. -/
theorem decides_foldl (h : Decides searches best) (hsorted : KeyMap.Ascending (searches ++ rest)) :
    Decides (searches ++ rest) ((rest.map (·.2)).foldl SearchCount.prefer best) := by
  induction rest generalizing searches best with
  | nil =>
    rw [List.append_nil]
    exact h
  | cons e rest ih =>
    have hlast : ∀ e' ∈ searches, e'.1 < e.1 := fun e' he' =>
      (List.pairwise_append.mp hsorted).2.2 e' he' e List.mem_cons_self
    rw [List.append_cons] at hsorted ⊢
    exact ih (decides_prefer h hlast) hsorted

end

theorem Leads.not_forall_eq_zero {searches : List (String × SearchCount)} {e : String × SearchCount}
    (h : Leads searches e) : ¬ ∀ e' ∈ searches, e'.2.count = 0 := by
  intro hzero
  have hpos := h.made
  rw [hzero e h.mem] at hpos
  exact UInt64.lt_irrefl 0 hpos

/-- What is known of all searches of a user. -/
theorem exists_decides (f : Favorites) :
    ∃ best, Decides f.searches.entries best ∧ f.mostSearched = best.map (·.location) :=
  have hnone : Decides [] none := List.forall_mem_nil _
  ⟨_, decides_foldl hnone f.searches.ascending, rfl⟩

/-! ## Searches in any order -/

/-- The value lists these searches of a user, each by its key, whatever else it says. -/
def Lists (v : Written) (ms : List (String × Written)) : Prop :=
  v.Gives ["searchHistory"] [some (.object ms)]

theorem isTold_iff_of_lists {v : Written} {ms : List (String × Written)} (h : Lists v ms) (f : Favorites) :
    IsTold v f ↔ IsMap SearchCount.IsTold (.object ms) f.searches := by
  constructor
  · rintro ⟨os, hgives, -, happlied⟩
    obtain rfl := hgives.unique h
    obtain ⟨_, ⟨searches, hsearches, rfl⟩, rfl⟩ := happlied
    exact hsearches
  · intro hmap
    exact ⟨_, h, .cons (fun _ => rfl) .nil, _, ⟨f.searches, hmap, rfl⟩, rfl⟩

/-- **Texts that list the same searches**, with different keys, are read as the same searches. -/
theorem read_eq_of_perm {v v' : Written} {ms ms' : List (String × Written)} (hv : Lists v ms) (hv' : Lists v' ms')
    (hperm : ms.Perm ms') (hkeys : (ms.map (·.1)).Nodup) {cs cs' : List Char} (hcs : SpellsDocument cs v)
    (hcs' : SpellsDocument cs' v') {f : Favorites} (h : readAll read (cs.map some) = .ok f) :
    readAll read (cs'.map some) = .ok f := by
  rw [(reads 124).readAll hcs, isTold_iff_of_lists hv] at h
  rw [(reads 124).readAll hcs', isTold_iff_of_lists hv']
  exact h.of_perm hperm hkeys

/-! ## The place -/

/-- **The place searched for most often** is that of the search that leads, and there is none just if no search was made.
And the order in which a text lists the searches does not matter, if they have different keys. -/
theorem most_searched_leads :
    (∀ f : Favorites,
      (f.mostSearched = none ↔ ∀ e ∈ f.searches.entries, e.2.count = 0) ∧
      ∀ place, f.mostSearched = some place ↔ ∃ e, Leads f.searches.entries e ∧ e.2.location = place) ∧
    ∀ v v' ms ms', Lists v ms → Lists v' ms' → ms.Perm ms' → (ms.map (·.1)).Nodup →
      ∀ cs cs', SpellsDocument cs v → SpellsDocument cs' v' → ∀ f, readAll read (cs.map some) = .ok f →
        ∃ f', readAll read (cs'.map some) = .ok f' ∧ f'.mostSearched = f.mostSearched := by
  refine ⟨fun f => ?_, ?_⟩
  · obtain ⟨best, hbest, hplace⟩ := exists_decides f
    rw [hplace]
    cases best with
    | none =>
      have hzero : ∀ e ∈ f.searches.entries, e.2.count = 0 := hbest
      refine ⟨iff_of_true rfl hzero, fun place => iff_of_false nofun ?_⟩
      rintro ⟨e, he, -⟩
      exact he.not_forall_eq_zero hzero
    | some c =>
      obtain ⟨b, hb, rfl⟩ := hbest
      refine ⟨iff_of_false nofun hb.not_forall_eq_zero, fun place => ?_⟩
      constructor
      · intro h
        exact ⟨b, hb, Option.some.inj h⟩
      · rintro ⟨e, he, rfl⟩
        rw [leads_unique f.searches.ascending he hb]
        rfl
  · intro v v' ms ms' hv hv' hperm hkeys cs cs' hcs hcs' f hread
    exact ⟨f, read_eq_of_perm hv hv' hperm hkeys hcs hcs' hread, rfl⟩

/-- One search of a user, as it is written. -/
def counted (location : String) (count : Nat) : Written :=
  .object [("location", .string location), ("count", .number (.plain count))]

/-- Two places that were searched for equally often, and one that was searched for less often. -/
def tied : List (String × Written) :=
  [("c", counted "Rome" 5), ("a", counted "Bern" 2), ("b", counted "Oslo" 5)]

/-- The same searches as they are read, in the order of their keys. -/
def tiedSearches : Favorites :=
  ⟨.ofEntries [("a", ⟨"Bern", 2⟩), ("b", ⟨"Oslo", 5⟩), ("c", ⟨"Rome", 5⟩)]⟩

/-- The searches as a value that also says something else. -/
def listing (ms : List (String × Written)) : Written :=
  .object [("other", .null), ("searchHistory", .object ms)]

theorem lists_listing (ms : List (String × Written)) : Lists (listing ms) ms := by
  simp [Lists, listing, Written.Gives, valuesOf]

set_option maxRecDepth 4000 in
theorem most_searched_leads_of_tied :
    tiedSearches.mostSearched = some "Oslo" ∧
      ∃ f, readAll read ((listing tied.reverse).compact.map some) = .ok f ∧ f.mostSearched = some "Oslo" := by
  have hread : readAll read ((listing tied).compact.map some) = .ok tiedSearches := rfl
  have hleads : Leads tiedSearches.searches.entries ("b", ⟨"Oslo", 5⟩) := by
    show Leads [("a", ⟨"Bern", 2⟩), ("b", ⟨"Oslo", 5⟩), ("c", ⟨"Rome", 5⟩)] ("b", ⟨"Oslo", 5⟩)
    exact ⟨by simp, by decide, by decide, by simp only [bytesOf_le_iff]; decide⟩
  have hplace := ((most_searched_leads.1 tiedSearches).2 "Oslo").mpr ⟨_, hleads, rfl⟩
  obtain ⟨f, hf, heq⟩ := most_searched_leads.2 _ _ _ _ (lists_listing tied) (lists_listing tied.reverse)
    tied.reverse_perm.symm (by decide) _ _ (Written.spellsDocument_compact _) (Written.spellsDocument_compact _) _ hread
  exact ⟨hplace, f, hf, heq.trans hplace⟩

end Favorites

end PlanBrowser
