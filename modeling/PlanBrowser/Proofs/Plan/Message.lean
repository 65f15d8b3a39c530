import PlanBrowser.Proofs.Json.Ordered
import PlanBrowser.Proofs.Plan.Schema

/-!
# Messages are read back as they were written

Everything that is sent or received is a message of one of a few kinds.  A message is written with all of its members, in
the order of their declaration, and a reader that is given that text makes the same message of it.  That is so for every
message whose opaque values are in order and in which all numbers are integers.

What a reader yields is always in order, however it was spelled: members may be missing, unknown, in another order or
without names, and times may be numbers.  So to read a text and to write what was read is to bring the text into a form that
does not change any more.

* `Json.Fits` — values with integers only, in which brackets nest no deeper than that;
* `Json.tellsRecord_written`, `Json.isList_written` — records with all of their members, and lists, as they are written;
* `SavedStop.reads`, … — what the readers of the other kinds of messages make of a value;
* `Plan.isTold_written`, `Favorites.isTold_written`, … — of a written message they make the message;
* `Plan.yields`, `Batch.yields`, `Feedback.yields` — what a reader yields is in order;
* `Message` — the kinds of messages, with their readers and their JSON values;
* `Message.roundtrip` — **every message is read back**, and whatever has been read as well.
-/

namespace PlanBrowser

open Json

/-! ## Values as they are written -/

namespace Json

/-- A value with integers only, in which brackets nest no deeper than that. -/
def Fits (depth : Nat) (v : Json) : Prop :=
  v.Integral ∧ v.nesting ≤ depth

theorem integral_array {vs : List Json} : (Json.array vs).Integral ↔ ∀ v ∈ vs, v.Integral :=
  ⟨fun h => by cases h with | array h => exact h, .array⟩

theorem integral_object {ms : List (String × Json)} : (Json.object ms).Integral ↔ ∀ m ∈ ms, m.2.Integral :=
  ⟨fun h => by cases h with | object h => exact h, .object⟩

theorem Fits.member {depth : Nat} {ms : List (String × Json)} (h : Fits (depth + 1) (.object ms)) {m : String × Json}
    (hm : m ∈ ms) : Fits depth m.2 := by
  have hnesting : nestingMembers ms ≤ depth := Nat.le_of_succ_le_succ h.2
  exact ⟨integral_object.mp h.1 m hm, Nat.le_trans (nesting_le_of_mem_members hm) hnesting⟩

theorem Fits.item {α : Type} {depth : Nat} {f : α → Json} {as : List α} (h : Fits (depth + 1) (.ofList f as)) {a : α}
    (ha : a ∈ as) : Fits depth (f a) := by
  have hmem : f a ∈ as.map f := List.mem_map_of_mem ha
  have hnesting : nestingItems (as.map f) ≤ depth := Nat.le_of_succ_le_succ h.2
  exact ⟨integral_array.mp h.1 _ hmem, Nat.le_trans (nesting_le_of_mem_items hmem) hnesting⟩

theorem nesting_object_le {depth : Nat} {ms : List (String × Json)} (h : ∀ m ∈ ms, m.2.nesting ≤ depth) :
    (Json.object ms).nesting ≤ depth + 1 :=
  Nat.succ_le_succ (nestingMembers_le h)

theorem nesting_ofList_le {α : Type} {depth : Nat} {f : α → Json} {as : List α} (h : ∀ a ∈ as, (f a).nesting ≤ depth) :
    (Json.ofList f as).nesting ≤ depth + 1 :=
  Nat.succ_le_succ (nestingItems_le (List.forall_mem_map.mpr h))

/-- Of different names each has the one value that it is listed with. -/
theorem valuesOf_of_mem {ms : List (String × Written)} (hnames : (ms.map (·.1)).Nodup) {m : String × Written}
    (hm : m ∈ ms) : valuesOf m.1 ms = [m.2] := by
  induction ms with
  | nil => cases hm
  | cons m' ms ih =>
    rw [List.map_cons, List.nodup_cons] at hnames
    rcases List.mem_cons.mp hm with rfl | hm
    · have hnone : valuesOf m.1 ms = [] := by
        rw [valuesOf, List.map_eq_nil_iff, List.filter_eq_nil_iff]
        intro m' hm' hname
        exact hnames.1 (of_decide_eq_true hname ▸ List.mem_map_of_mem hm')
      rw [valuesOf_cons, if_pos rfl, hnone]
    · have hne : m'.1 ≠ m.1 := fun hname => hnames.1 (hname ▸ List.mem_map_of_mem hm)
      rw [valuesOf_cons_of_ne hne, ih hnames.2 hm]

variable {σ α : Type}

theorem complete_some {rules : List (Rule σ)} {vs : List Written} (h : vs.length = rules.length) :
    Complete rules (vs.map some) := by
  induction rules generalizing vs with
  | nil =>
    rw [List.length_nil, List.length_eq_zero_iff] at h
    subst h
    exact .nil
  | cons r rules ih =>
    obtain ⟨v, vs, rfl⟩ := List.exists_cons_of_length_eq_add_one h
    exact .cons (fun _ => rfl) (ih (Nat.succ.inj h))

theorem applied_some {name : String} {required : Bool} {R : Written → α → Prop} {put : α → σ → σ} {a : α}
    {rules : List (Rule σ)} {v : Written} {os : List (Option Written)} {st st' : σ} (hv : R v a)
    (h : Applied rules os (put a st) st') :
    Applied (rule name required R put :: rules) (some v :: os) st st' :=
  ⟨put a, ⟨a, hv, rfl⟩, h⟩

/-- **A record with all of its members**, in the order of their rules. -/
theorem tellsRecord_written {S : Schema σ} {empty s : σ} {ms : List (String × Written)}
    (hnames : ms.map (·.1) = S.rules.map Rule.name) (h : Applied S.rules ((ms.map (·.2)).map some) empty s) :
    TellsRecord S.rules empty (.object ms) s := by
  refine ⟨(ms.map (·.2)).map some, ?_, ?_, h⟩
  · show List.Forall₂ _ (S.rules.map Rule.name) _
    rw [← hnames, List.map_map, List.forall₂_map_left_iff, List.forall₂_map_right_iff, List.forall₂_same]
    exact fun m hm => valuesOf_of_mem (hnames ▸ S.nodup_names) hm
  · have hlength := congrArg List.length hnames
    rw [List.length_map, List.length_map] at hlength
    exact complete_some ((List.length_map _).trans hlength)

/-- A list of values is read as what its items are read as. -/
theorem isList_written {R : Written → α → Prop} {f : α → Json} {as : List α} (h : ∀ a ∈ as, R (f a).written a) :
    IsList R (Json.ofList f as).written as := by
  refine ⟨_, rfl, ?_⟩
  rw [writtenItems_eq, List.map_map, List.forall₂_map_left_iff, List.forall₂_same]
  exact h

/-- **A written value is read back**, by a reader that makes of it what was written. -/
theorem readAll_written {r : Nat → Reader α} {R : Written → α → Prop} (h : Reads (r maxDepth) R) {v : Json}
    (hv : v.Integral) {a : α} (ha : R v.written a) : readAll r (sourceOf v.text) = .ok a :=
  (h.readAll (spellsDocument_text hv) a).mpr ha

end Json

/-! ## Plans -/

namespace Stop

theorem isTold_written (s : Stop) : IsTold s.toJson.written s :=
  (tellsRecord_iff _ s).mp <| tellsRecord_written rfl <| applied_some rfl <| applied_some rfl <| applied_some rfl <|
    applied_some rfl <| applied_some (.inl rfl) <| applied_some (.inl rfl) <| applied_some rfl rfl

theorem nesting_toJson (s : Stop) : s.toJson.nesting ≤ 1 :=
  nesting_object_le <| by simp [VisitTime.toJson, nesting]

end Stop

namespace Plan

theorem isTold_written {depth : Nat} {p : Plan} (h : Fits (depth + 1) p.toJson) (hspec : p.spec.Ordered) :
    IsTold (IsValue depth) p.toJson.written p := by
  have hfits : Fits depth p.spec := h.member (m := ("planning_spec", p.spec)) (by simp)
  refine (tellsRecord_iff _ _ p).mp (tellsRecord_written rfl ?_)
  exact applied_some rfl <| applied_some (isList_written fun s _ => s.isTold_written) <| applied_some rfl <|
    applied_some (isValue_written hfits.1 hspec hfits.2) rfl

/-- **What a plan was searched for is in order**, and nests one level less than the plan may. -/
theorem yields (depth : Nat) : Yields (read depth) fun p => ∃ d, depth = d + 1 ∧ OrderedTo d p.spec := by
  have hnone (d : Nat) : OrderedTo d (named "").spec := ⟨.null, Nat.zero_le d⟩
  refine yields_record (P := fun d (p : Plan) => OrderedTo d p.spec) hnone (fun d => ?_) depth
  simp only [fields, List.forall_mem_cons]
  exact ⟨keeps_untouched _ _ fun _ _ h => h, keeps_untouched _ _ fun _ _ h => h,
    keeps_untouched _ _ fun _ _ h => h, keeps_field (yields_value d) _ _ fun _ _ h _ => h, List.forall_mem_nil _⟩

theorem nesting_toJson {depth : Nat} {p : Plan} (h : p.spec.nesting ≤ depth + 2) : p.toJson.nesting ≤ depth + 3 := by
  refine nesting_object_le ?_
  have hstops : (Json.ofList Stop.toJson p.stops).nesting ≤ 2 := nesting_ofList_le fun s _ => s.nesting_toJson
  simp only [List.forall_mem_cons]
  exact ⟨Nat.zero_le _, by omega, Nat.zero_le _, h, List.forall_mem_nil _⟩

end Plan

namespace Batch

theorem isTold_written {depth : Nat} {b : Batch} (h : Fits (depth + 3) b.toJson)
    (hspecs : ∀ p ∈ b.plans, p.spec.Ordered) : IsTold (IsValue depth) b.toJson.written b := by
  have hplans : Fits (depth + 2) (Json.ofList Plan.toJson b.plans) :=
    h.member (m := ("travel_plans", Json.ofList Plan.toJson b.plans)) (by simp)
  refine (tellsRecord_iff _ _ b).mp (tellsRecord_written rfl ?_)
  exact applied_some (isList_written fun p hp => Plan.isTold_written (hplans.item hp) (hspecs p hp)) <|
    applied_some (isList_written fun _ _ => rfl) <| applied_some rfl rfl

/-- **What the plans of a batch were searched for is in order**, and nests three levels less than the batch may. -/
theorem yields (depth : Nat) :
    Yields (read depth) fun b => ∀ p ∈ b.plans, ∃ d, depth = d + 3 ∧ OrderedTo d p.spec := by
  have hrecord : Yields (read depth) fun b => ∃ d, depth = d + 1 ∧
      ∀ p ∈ b.plans, ∃ e, d = e + 2 ∧ OrderedTo e p.spec := by
    refine yields_record (fun d => List.forall_mem_nil _) (fun d => ?_) depth
    simp only [fields, List.forall_mem_cons]
    refine ⟨keeps_field (yields_list Plan.yields d) _ _ ?_, keeps_untouched _ _ fun _ _ h => h,
      keeps_untouched _ _ fun _ _ h => h, List.forall_mem_nil _⟩
    rintro plans b ⟨d, rfl, hplans⟩ - p hp
    obtain ⟨e, rfl, hspec⟩ := hplans p hp
    exact ⟨e, rfl, hspec⟩
  intro src b rest hread p hp
  obtain ⟨d, rfl, hplans⟩ := hrecord src b rest hread
  obtain ⟨e, rfl, hspec⟩ := hplans p hp
  exact ⟨e, rfl, hspec⟩

theorem nesting_toJson {depth : Nat} {b : Batch} (h : ∀ p ∈ b.plans, p.spec.nesting ≤ depth + 2) :
    b.toJson.nesting ≤ depth + 5 := by
  refine nesting_object_le ?_
  have hplans : (Json.ofList Plan.toJson b.plans).nesting ≤ depth + 4 :=
    nesting_ofList_le fun p hp => Plan.nesting_toJson (h p hp)
  have hlinks : (Json.ofList Json.string b.detailLinks).nesting ≤ 1 := nesting_ofList_le fun _ _ => Nat.le_refl 0
  simp only [List.forall_mem_cons]
  exact ⟨hplans, by omega, Nat.zero_le _, List.forall_mem_nil _⟩

end Batch

/-! ## What is sent about a plan -/

namespace SavedStop

/-- The members of a saved place. -/
def schema : Schema SavedStop where
  rules := [rule "id" false IsText fun a s => { s with id := a },
    rule "time_period" false IsText fun a s => { s with period := a },
    rule "place_name" false IsText fun a s => { s with name := a },
    rule "address" false IsText fun a s => { s with address := a },
    rule "url" false IsText fun a s => { s with link := a }]

/-- What is told of a saved place. -/
def IsTold : Written → SavedStop → Prop :=
  TellsRecord schema.rules blank

theorem reads (depth : Nat) : Reads (read (depth + 1)) IsTold :=
  reads_record (.cons (follows_flat reads_text _ _ _) <| .cons (follows_flat reads_text _ _ _) <|
    .cons (follows_flat reads_text _ _ _) <| .cons (follows_flat reads_text _ _ _) <|
    .cons (follows_flat reads_text _ _ _) .nil) blank

theorem isTold_written (s : SavedStop) : IsTold s.toJson.written s :=
  tellsRecord_written rfl <| applied_some rfl <| applied_some rfl <| applied_some rfl <| applied_some rfl <|
    applied_some rfl rfl

theorem nesting_toJson (s : SavedStop) : s.toJson.nesting ≤ 1 :=
  nesting_object_le <| by simp [nesting]

theorem nesting_ofList (ss : List SavedStop) : (Json.ofList toJson ss).nesting ≤ 2 :=
  nesting_ofList_le fun s _ => s.nesting_toJson

end SavedStop

namespace SaveRequest

/-- The members of a request to save a plan. -/
def schema : Schema SaveRequest where
  rules := [rule "destination" true IsText fun a r => { r with destination := a },
    rule "travel_date" true IsText fun a r => { r with date := a },
    rule "original_plan_id" true IsText fun a r => { r with planId := a },
    rule "created_at" true IsText fun a r => { r with createdAt := a },
    rule "places" true (IsList SavedStop.IsTold) fun a r => { r with stops := a }]

/-- What is told of a request to save a plan. -/
def IsTold : Written → SaveRequest → Prop :=
  TellsRecord schema.rules ⟨"", "", "", "", []⟩

theorem reads (depth : Nat) : Reads (read (depth + 3)) IsTold :=
  reads_record (.cons (follows_flat reads_text _ _ _) <| .cons (follows_flat reads_text _ _ _) <|
    .cons (follows_flat reads_text _ _ _) <| .cons (follows_flat reads_text _ _ _) <|
    .cons (follows_field (reads_list (SavedStop.reads depth)) _ _ _) .nil) _

theorem isTold_written (r : SaveRequest) : IsTold r.toJson.written r :=
  tellsRecord_written rfl <| applied_some rfl <| applied_some rfl <| applied_some rfl <| applied_some rfl <|
    applied_some (isList_written fun s _ => s.isTold_written) rfl

theorem nesting_toJson (r : SaveRequest) : r.toJson.nesting ≤ 3 :=
  nesting_object_le <| by simp [nesting, SavedStop.nesting_ofList]

end SaveRequest

namespace Feedback

/-- The members of a feedback.  `Spec` says what may be told of what the planner had been asked for. -/
def schema (Spec : Written → Json → Prop) : Schema Feedback where
  rules := [rule "plan_id" true IsText fun a f => { f with planId := a },
    rule "plan_spec" true Spec fun a f => { f with spec := a }]

/-- What is told of a feedback. -/
def IsTold (Spec : Written → Json → Prop) : Written → Feedback → Prop :=
  TellsRecord (schema Spec).rules ⟨"", .null⟩

theorem reads (depth : Nat) : Reads (read (depth + 1)) (IsTold (IsValue depth)) :=
  reads_record (.cons (follows_flat reads_text _ _ _) <| .cons (follows_field (reads_value depth) _ _ _) .nil) _

theorem isTold_written {depth : Nat} {f : Feedback} (h : Fits (depth + 1) f.toJson) (hspec : f.spec.Ordered) :
    IsTold (IsValue depth) f.toJson.written f := by
  have hfits : Fits depth f.spec := h.member (m := ("plan_spec", f.spec)) (by simp)
  exact tellsRecord_written rfl <| applied_some rfl <| applied_some (isValue_written hfits.1 hspec hfits.2) rfl

/-- **What the planner had been asked for is in order**, and nests one level less than the feedback may. -/
theorem yields (depth : Nat) : Yields (read depth) fun f => ∃ d, depth = d + 1 ∧ OrderedTo d f.spec := by
  have hnone (d : Nat) : OrderedTo d (⟨"", .null⟩ : Feedback).spec := ⟨.null, Nat.zero_le d⟩
  refine yields_record (P := fun d (f : Feedback) => OrderedTo d f.spec) hnone (fun d => ?_) depth
  simp only [fields, List.forall_mem_cons]
  exact ⟨keeps_untouched _ _ fun _ _ h => h, keeps_field (yields_value d) _ _ fun _ _ h _ => h, List.forall_mem_nil _⟩

theorem nesting_toJson {depth : Nat} {f : Feedback} (h : f.spec.nesting ≤ depth) : f.toJson.nesting ≤ depth + 1 :=
  nesting_object_le <| by simp [nesting, h]

end Feedback

namespace SummaryRequest

/-- The member of a request for a summary. -/
def schema : Schema SummaryRequest where
  rules := [rule "plan_id" true IsText fun a _ => ⟨a⟩]

/-- What is told of a request for a summary. -/
def IsTold : Written → SummaryRequest → Prop :=
  TellsRecord schema.rules ⟨""⟩

theorem reads (depth : Nat) : Reads (read (depth + 1)) IsTold :=
  reads_record (.cons (follows_flat reads_text _ _ _) .nil) _

theorem isTold_written (r : SummaryRequest) : IsTold r.toJson.written r :=
  tellsRecord_written rfl <| applied_some rfl rfl

end SummaryRequest

namespace Summary

/-- The member of a summary. -/
def schema : Schema Summary where
  rules := [rule "message" false IsText fun a _ => ⟨a⟩]

/-- What is told of a summary. -/
def IsTold : Written → Summary → Prop :=
  TellsRecord schema.rules ⟨""⟩

theorem reads (depth : Nat) : Reads (read (depth + 1)) IsTold :=
  reads_record (.cons (follows_flat reads_text _ _ _) .nil) _

theorem isTold_written (s : Summary) : IsTold s.toJson.written s :=
  tellsRecord_written rfl <| applied_some rfl rfl

end Summary

/-! ## A user's profile -/

namespace SavedPlan

/-- The members of a saved plan. -/
def schema : Schema SavedPlan where
  rules := [rule "id" false IsText fun a p => { p with id := a },
    rule "original_plan_id" false IsText fun a p => { p with planId := a },
    rule "destination" false IsText fun a p => { p with destination := a },
    rule "travel_date" false IsText fun a p => { p with date := a },
    rule "places" false (IsList SavedStop.IsTold) fun a p => { p with stops := a }]

/-- What is told of a saved plan. -/
def IsTold : Written → SavedPlan → Prop :=
  TellsRecord schema.rules blank

theorem reads (depth : Nat) : Reads (read (depth + 3)) IsTold :=
  reads_record (.cons (follows_flat reads_text _ _ _) <| .cons (follows_flat reads_text _ _ _) <|
    .cons (follows_flat reads_text _ _ _) <| .cons (follows_flat reads_text _ _ _) <|
    .cons (follows_field (reads_list (SavedStop.reads depth)) _ _ _) .nil) _

theorem isTold_written (p : SavedPlan) : IsTold p.toJson.written p :=
  tellsRecord_written rfl <| applied_some rfl <| applied_some rfl <| applied_some rfl <| applied_some rfl <|
    applied_some (isList_written fun s _ => s.isTold_written) rfl

theorem nesting_toJson (p : SavedPlan) : p.toJson.nesting ≤ 3 :=
  nesting_object_le <| by simp [nesting, SavedStop.nesting_ofList]

end SavedPlan

namespace SavedPlans

/-- The member of a list of saved plans. -/
def schema : Schema SavedPlans where
  rules := [rule "travel_plans" false (IsList SavedPlan.IsTold) fun a _ => ⟨a⟩]

/-- What is told of a list of saved plans. -/
def IsTold : Written → SavedPlans → Prop :=
  TellsRecord schema.rules ⟨[]⟩

theorem reads (depth : Nat) : Reads (read (depth + 5)) IsTold :=
  reads_record (.cons (follows_field (reads_list (SavedPlan.reads depth)) _ _ _) .nil) _

theorem isTold_written (s : SavedPlans) : IsTold s.toJson.written s :=
  tellsRecord_written rfl <| applied_some (isList_written fun p _ => p.isTold_written) rfl

theorem nesting_toJson (s : SavedPlans) : s.toJson.nesting ≤ 5 := by
  have hplans : (Json.ofList SavedPlan.toJson s.plans).nesting ≤ 4 := nesting_ofList_le fun p _ => p.nesting_toJson
  exact nesting_object_le <| by simp [hplans]

end SavedPlans

namespace SearchCount

/-- The members of a search count. -/
def schema : Schema SearchCount where
  rules := [rule "location" false IsText fun a c => { c with location := a },
    rule "count" false IsWord fun a c => { c with count := a }]

/-- What is told of a search count. -/
def IsTold : Written → SearchCount → Prop :=
  TellsRecord schema.rules blank

theorem reads (depth : Nat) : Reads (read (depth + 1)) IsTold :=
  reads_record (.cons (follows_flat reads_text _ _ _) <| .cons (follows_flat reads_word _ _ _) .nil) _

theorem isTold_written (c : SearchCount) : IsTold c.toJson.written c :=
  tellsRecord_written rfl <| applied_some rfl <| applied_some rfl rfl

theorem nesting_toJson (c : SearchCount) : c.toJson.nesting ≤ 1 :=
  nesting_object_le <| by simp [nesting]

end SearchCount

namespace Favorites

/-- The member of a user's searches. -/
def schema : Schema Favorites where
  rules := [rule "searchHistory" false (IsMap SearchCount.IsTold) fun a _ => ⟨a⟩]

/-- What is told of a user's searches. -/
def IsTold : Written → Favorites → Prop :=
  TellsRecord schema.rules ⟨.empty⟩

theorem reads (depth : Nat) : Reads (read (depth + 3)) IsTold :=
  reads_record (.cons (follows_field (reads_map (SearchCount.reads depth)) _ _ _) .nil) _

theorem isTold_written (f : Favorites) : IsTold f.toJson.written f := by
  refine tellsRecord_written rfl (applied_some ?_ rfl)
  refine ⟨_, f.searches.entries, rfl, ?_, f.searches.ofEntries_entries.symm⟩
  rw [writtenMembers_eq, List.map_map, List.forall₂_map_left_iff, List.forall₂_same]
  exact fun e _ => ⟨rfl, e.2.isTold_written⟩

theorem nesting_toJson (f : Favorites) : f.toJson.nesting ≤ 3 := by
  have hsearches : ∀ m ∈ f.searches.entries.map fun e => (e.1, e.2.toJson), m.2.nesting ≤ 1 :=
    List.forall_mem_map.mpr fun e _ => e.2.nesting_toJson
  exact nesting_object_le (List.forall_mem_singleton.mpr (nesting_object_le hsearches))

end Favorites

/-! ## All kinds of messages -/

/-- **The kinds of messages.** -/
inductive Message where
  | stop
  | plan
  | batch
  | savedStop
  | saveRequest
  | feedback
  | summaryRequest
  | summary
  | savedPlan
  | savedPlans
  | favorites
  deriving Repr, DecidableEq

namespace Message

/-- What a message of this kind says. -/
def Value : Message → Type
  | .stop => Stop
  | .plan => Plan
  | .batch => Batch
  | .savedStop => SavedStop
  | .saveRequest => SaveRequest
  | .feedback => Feedback
  | .summaryRequest => SummaryRequest
  | .summary => Summary
  | .savedPlan => SavedPlan
  | .savedPlans => SavedPlans
  | .favorites => Favorites

/-- The reader of messages of this kind. -/
def read : (m : Message) → Nat → Reader m.Value
  | .stop => Stop.read
  | .plan => Plan.read
  | .batch => Batch.read
  | .savedStop => SavedStop.read
  | .saveRequest => SaveRequest.read
  | .feedback => Feedback.read
  | .summaryRequest => SummaryRequest.read
  | .summary => Summary.read
  | .savedPlan => SavedPlan.read
  | .savedPlans => SavedPlans.read
  | .favorites => Favorites.read

/-- A message of this kind as JSON. -/
def toJson : (m : Message) → m.Value → Json
  | .stop => Stop.toJson
  | .plan => Plan.toJson
  | .batch => Batch.toJson
  | .savedStop => SavedStop.toJson
  | .saveRequest => SaveRequest.toJson
  | .feedback => Feedback.toJson
  | .summaryRequest => SummaryRequest.toJson
  | .summary => Summary.toJson
  | .savedPlan => SavedPlan.toJson
  | .savedPlans => SavedPlans.toJson
  | .favorites => Favorites.toJson

/-- **Objects are in the order of their names**, in the values that the message carries.  An object is kept as the list of its
members, and this says which lists are objects. -/
def Canonical : (m : Message) → m.Value → Prop
  | .plan, p => Json.Ordered (Plan.spec p)
  | .batch, b => ∀ p ∈ Batch.plans b, p.spec.Ordered
  | .feedback, f => Json.Ordered (Feedback.spec f)
  | _, _ => True

/-- A text of a message is read, and what has been read is written. -/
def rewrite (m : Message) (src : Source) : Except Fault String :=
  (readAll m.read src).map fun v => (m.toJson v).text

/-- **A written message makes the message again.** -/
theorem reads_written (m : Message) {v : m.Value} (h : m.Canonical v) (hfits : Fits maxDepth (m.toJson v)) :
    readAll m.read (sourceOf (m.toJson v).text) = .ok v := by
  cases m with
  | stop => exact readAll_written (Stop.reads 126) hfits.1 (Stop.isTold_written v)
  | plan => exact readAll_written (Plan.reads 124) hfits.1 (Plan.isTold_written hfits h)
  | batch => exact readAll_written (Batch.reads 122) hfits.1 (Batch.isTold_written hfits h)
  | savedStop => exact readAll_written (SavedStop.reads 126) hfits.1 (SavedStop.isTold_written v)
  | saveRequest => exact readAll_written (SaveRequest.reads 124) hfits.1 (SaveRequest.isTold_written v)
  | feedback => exact readAll_written (Feedback.reads 126) hfits.1 (Feedback.isTold_written hfits h)
  | summaryRequest => exact readAll_written (SummaryRequest.reads 126) hfits.1 (SummaryRequest.isTold_written v)
  | summary => exact readAll_written (Summary.reads 126) hfits.1 (Summary.isTold_written v)
  | savedPlan => exact readAll_written (SavedPlan.reads 124) hfits.1 (SavedPlan.isTold_written v)
  | savedPlans => exact readAll_written (SavedPlans.reads 122) hfits.1 (SavedPlans.isTold_written v)
  | favorites => exact readAll_written (Favorites.reads 124) hfits.1 (Favorites.isTold_written v)

/-- **What is read is in order**, and its brackets nest no deeper than a reader goes. -/
theorem canonical_of_read (m : Message) {src : Source} {v : m.Value} (h : readAll m.read src = .ok v) :
    m.Canonical v ∧ (m.toJson v).nesting ≤ maxDepth := by
  cases m with
  | stop => exact ⟨trivial, Nat.le_trans (Stop.nesting_toJson v) (by decide)⟩
  | plan =>
    obtain ⟨d, hd, hspec⟩ := (Plan.yields maxDepth).readAll h
    obtain rfl : d = 126 := Nat.succ.inj hd.symm
    exact ⟨hspec.1, Plan.nesting_toJson hspec.2⟩
  | batch =>
    have hspecs : ∀ p ∈ Batch.plans v, OrderedTo 124 p.spec := by
      intro p hp
      obtain ⟨d, hd, hspec⟩ := (Batch.yields maxDepth).readAll h p hp
      obtain rfl : d = 124 := by rw [maxDepth] at hd; omega
      exact hspec
    exact ⟨fun p hp => (hspecs p hp).1, Batch.nesting_toJson fun p hp => (hspecs p hp).2⟩
  | savedStop => exact ⟨trivial, Nat.le_trans (SavedStop.nesting_toJson v) (by decide)⟩
  | saveRequest => exact ⟨trivial, Nat.le_trans (SaveRequest.nesting_toJson v) (by decide)⟩
  | feedback =>
    obtain ⟨d, hd, hspec⟩ := (Feedback.yields maxDepth).readAll h
    obtain rfl : d = 126 := Nat.succ.inj hd.symm
    exact ⟨hspec.1, Feedback.nesting_toJson hspec.2⟩
  | summaryRequest => exact ⟨trivial, (by decide : 1 ≤ maxDepth)⟩
  | summary => exact ⟨trivial, (by decide : 1 ≤ maxDepth)⟩
  | savedPlan => exact ⟨trivial, Nat.le_trans (SavedPlan.nesting_toJson v) (by decide)⟩
  | savedPlans => exact ⟨trivial, Nat.le_trans (SavedPlans.nesting_toJson v) (by decide)⟩
  | favorites => exact ⟨trivial, Nat.le_trans (Favorites.nesting_toJson v) (by decide)⟩

/-- **Every message is read back as it was written**, if its numbers are integers and its brackets nest no deeper than a
reader goes.  And whatever text is read as a message, **to write the message and to read and write it once more comes to
the same**, unless a number was read as a double. -/
theorem roundtrip (m : Message) :
    (∀ v, m.Canonical v → (m.toJson v).Integral → (m.toJson v).nesting ≤ maxDepth →
        readAll m.read (sourceOf (m.toJson v).text) = .ok v) ∧
      ∀ src v, readAll m.read src = .ok v → (m.toJson v).Integral →
        m.rewrite src = .ok (m.toJson v).text ∧ m.rewrite (sourceOf (m.toJson v).text) = .ok (m.toJson v).text := by
  refine ⟨fun v h hintegral hnesting => m.reads_written h ⟨hintegral, hnesting⟩, fun src v hread hintegral => ?_⟩
  obtain ⟨hcanonical, hnesting⟩ := m.canonical_of_read hread
  have hback := m.reads_written hcanonical ⟨hintegral, hnesting⟩
  exact ⟨by rw [rewrite, hread]; rfl, by rw [rewrite, hback]; rfl⟩

/-- A plan with a control character and quotes, which was searched for with a number below zero. -/
def searched : Plan :=
  ⟨"\x07\"", [{ Stop.blank with start := ⟨"9"⟩ }], true, .object [("a", .number (.belowZero 4)), ("b", .array [.null])]⟩

/-- A text of a feedback without names, with members that are out of order. -/
def jumbled : String := "[\"p\", \x7b\"b\": 1, \"a\": [null]\x7d]"

theorem roundtrip_plan_feedback :
    readAll Plan.read (sourceOf searched.toJson.text) = .ok searched ∧
      ∃ t, Message.feedback.rewrite (sourceOf jumbled) = .ok t ∧ Message.feedback.rewrite (sourceOf t) = .ok t := by
  have hintegral : searched.toJson.Integral := by
    simp [searched, Plan.toJson, Stop.toJson, VisitTime.toJson, ofList, integral_array, integral_object, Integral.null,
      Integral.bool, Integral.belowZero, Integral.string]
  have hordered : searched.spec.Ordered := by
    refine .object (List.pairwise_pair.mpr (by decide)) ?_
    simp only [List.forall_mem_cons]
    exact ⟨.number _, .array (List.forall_mem_singleton.mpr .null), List.forall_mem_nil _⟩
  have hread : readAll Feedback.read (sourceOf jumbled) =
      .ok ⟨"p", .object [("a", .array [.null]), ("b", .number (.natural 1))]⟩ := rfl
  have hjumbled : (Feedback.toJson ⟨"p", .object [("a", .array [.null]), ("b", .number (.natural 1))]⟩).Integral := by
    simp [Feedback.toJson, integral_array, integral_object, Integral.null, Integral.natural, Integral.string]
  exact ⟨(roundtrip .plan).1 searched hordered hintegral (by decide), _, (roundtrip .feedback).2 _ _ hread hjumbled⟩

end Message

end PlanBrowser
