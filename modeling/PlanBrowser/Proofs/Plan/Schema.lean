import PlanBrowser.Plan.Wire
import PlanBrowser.Proofs.Json.Record

/-!
# Which values are batches of plans

A planner answers with a value, and the client reads it as a batch of plans.  Here is said which values are accepted, and
what is made of them, without saying how they are read: which members there are, what each of them must be, and what is
assumed of one that is missing.  Members with other names may have any values.

What a plan was searched for is never looked into, but it is kept as a value.  So its brackets may nest only as deep as
is left of the depth for the whole text, and its numerals must not exceed every double.

* `VisitTime.IsTold`, `Stop.IsTold`, `Plan.IsTold`, `Batch.IsTold` — **the values that are accepted**, and what they tell;
* `VisitTime.reads`, `Stop.reads`, `Plan.reads`, `Batch.reads` — the readers make that of every value, and of no other;
* `Batch.read_iff_isTold` — **a text is read as a batch just if its value is accepted**;
* `Batch.deep_spec_refused` — a batch that is refused only for what was searched for.
-/

namespace PlanBrowser

open Json

/-! ## Visit times -/

namespace VisitTime

/-- **A visit time** is a text, or a plain unsigned integer that a word holds, of which the digits are kept. -/
def IsTold (v : Written) (t : VisitTime) : Prop :=
  v = .string t.text ∨ ∃ n < Text.wordBound, v = .number (.plain n) ∧ t = ofNat n

theorem reads (depth : Nat) : Reads (read depth) IsTold := by
  intro w v hw gap hgap rest hrest t src
  have hread := readsAs_value hw depth gap hgap rest hrest
  have hflat (s : String) : (Written.string s).nesting ≤ depth := Nat.zero_le _
  have hplain (x : Numeral) : (Written.number x).nesting ≤ depth := Nat.zero_le _
  rw [read]
  show (readValue depth _ >>= _) = _ ↔ _
  rw [bind_eq_ok]
  constructor
  · rintro ⟨⟨j, src'⟩, hj, ht⟩
    obtain ⟨rfl, -, hvalue⟩ := (hread j src').mp hj
    split at ht
    · next n _ heq =>
      obtain ⟨rfl, rfl⟩ := Prod.mk.inj heq
      cases ht
      obtain ⟨x, rfl, hx⟩ := Written.value?_eq_number.mp hvalue
      obtain rfl := (x.number_eq_natural_iff n).mp hx
      exact ⟨rfl, .inr ⟨n.toNat, n.toNat_lt, rfl, rfl⟩⟩
    · next s _ heq =>
      obtain ⟨rfl, rfl⟩ := Prod.mk.inj heq
      cases ht
      exact ⟨rfl, .inl (Written.value?_eq_string.mp hvalue)⟩
    · cases ht
  · rintro ⟨rfl, rfl | ⟨n, hn, rfl, rfl⟩⟩
    · exact ⟨(.string t.text, src), (hread _ src).mpr ⟨rfl, hflat _, rfl⟩, rfl⟩
    · have hword : n.toUInt64.toNat = n := UInt64.toNat_ofNat_of_lt' hn
      have hvalue : (Written.number (.plain n)).value? = some (.number (.natural n.toUInt64)) :=
        Written.value?_eq_number.mpr ⟨_, rfl, (Numeral.number_eq_natural_iff _ _).mpr (by rw [hword])⟩
      refine ⟨(.number (.natural n.toUInt64), src), (hread _ src).mpr ⟨rfl, hplain _, hvalue⟩, ?_⟩
      show Except.ok (ofNat n.toUInt64.toNat, src) = _
      rw [hword]

end VisitTime

/-! ## Plans -/

/-- **A visited place**: an object or a list of texts and two visit times, each of which may be missing. -/
def Stop.IsTold (v : Written) (s : Stop) : Prop :=
  ∃ id name address link start finish icon,
    v.Gives ["id", "place_name", "address", "url", "start_time", "end_time", "place_icon_css_class"]
      [id, name, address, link, start, finish, icon] ∧
    Told IsText "" id s.id ∧ Told IsText "" name s.name ∧ Told IsText "" address s.address ∧
    Told IsText "" link s.link ∧ Told VisitTime.IsTold .absent start s.start ∧
    Told VisitTime.IsTold .absent finish s.finish ∧ Told IsText "" icon s.icon

/-- **A plan** has an id.  `Spec` says what may be told of what it was searched for. -/
def Plan.IsTold (Spec : Written → Json → Prop) (v : Written) (p : Plan) : Prop :=
  ∃ id stops saved spec, v.Gives ["id", "places", "saved", "planning_spec"] [some id, stops, saved, spec] ∧
    IsText id p.id ∧ Told (IsList Stop.IsTold) [] stops p.stops ∧ Told IsFlag false saved p.saved ∧
    Told Spec .null spec p.spec

/-- **A batch of plans**, with the links to their details and their destination. -/
def Batch.IsTold (Spec : Written → Json → Prop) (v : Written) (b : Batch) : Prop :=
  ∃ plans links destination,
    v.Gives ["travel_plans", "trip_details_url", "travel_destination"] [plans, links, destination] ∧
    Told (IsList (Plan.IsTold Spec)) [] plans b.plans ∧ Told (IsList IsText) [] links b.detailLinks ∧
    Told IsText "" destination b.destination

/-! ## What the readers know of the members -/

namespace Stop

/-- The members of a visited place. -/
def schema : Schema Stop where
  rules := [rule "id" false IsText fun a s => { s with id := a },
    rule "place_name" false IsText fun a s => { s with name := a },
    rule "address" false IsText fun a s => { s with address := a },
    rule "url" false IsText fun a s => { s with link := a },
    rule "start_time" false VisitTime.IsTold fun a s => { s with start := a },
    rule "end_time" false VisitTime.IsTold fun a s => { s with finish := a },
    rule "place_icon_css_class" false IsText fun a s => { s with icon := a }]

theorem follows (depth : Nat) : List.Forall₂ (Follows depth) fields schema.rules :=
  .cons (follows_flat reads_text _ _ _) <| .cons (follows_flat reads_text _ _ _) <|
  .cons (follows_flat reads_text _ _ _) <| .cons (follows_flat reads_text _ _ _) <|
  .cons (follows_field (VisitTime.reads depth) _ _ _) <| .cons (follows_field (VisitTime.reads depth) _ _ _) <|
  .cons (follows_flat reads_text _ _ _) .nil

theorem tellsRecord_iff (v : Written) (s : Stop) : TellsRecord schema.rules blank v s ↔ IsTold v s := by
  constructor
  · rintro ⟨os, hgives, hcomplete, happlied⟩
    simp only [Complete, schema, List.forall₂_cons_left_iff, List.forall₂_nil_left_iff] at hcomplete
    obtain ⟨id, _, -, ⟨name, _, -, ⟨address, _, -, ⟨link, _, -, ⟨start, _, -, ⟨finish, _, -, ⟨icon, _, -, rfl, rfl⟩,
      rfl⟩, rfl⟩, rfl⟩, rfl⟩, rfl⟩, rfl⟩ := hcomplete
    obtain ⟨_, hid, happlied⟩ := (applied_rule rfl).mp happlied
    obtain ⟨_, hname, happlied⟩ := (applied_rule rfl).mp happlied
    obtain ⟨_, haddress, happlied⟩ := (applied_rule rfl).mp happlied
    obtain ⟨_, hlink, happlied⟩ := (applied_rule rfl).mp happlied
    obtain ⟨_, hstart, happlied⟩ := (applied_rule rfl).mp happlied
    obtain ⟨_, hfinish, happlied⟩ := (applied_rule rfl).mp happlied
    obtain ⟨_, hicon, rfl⟩ := (applied_rule rfl).mp happlied
    exact ⟨id, name, address, link, start, finish, icon, hgives, hid, hname, haddress, hlink, hstart, hfinish, hicon⟩
  · rintro ⟨id, name, address, link, start, finish, icon, hgives, hid, hname, haddress, hlink, hstart, hfinish, hicon⟩
    refine ⟨_, hgives, by simp [Complete, schema, rule], ?_⟩
    exact (applied_rule rfl).mpr ⟨_, hid, (applied_rule rfl).mpr ⟨_, hname, (applied_rule rfl).mpr ⟨_, haddress,
      (applied_rule rfl).mpr ⟨_, hlink, (applied_rule rfl).mpr ⟨_, hstart, (applied_rule rfl).mpr ⟨_, hfinish,
        (applied_rule rfl).mpr ⟨_, hicon, rfl⟩⟩⟩⟩⟩⟩⟩

theorem reads (depth : Nat) : Reads (read (depth + 1)) IsTold :=
  (reads_record (follows depth) blank).congr tellsRecord_iff

end Stop

namespace Plan

/-- The members of a plan.  `Spec` says what may be told of what it was searched for. -/
def schema (Spec : Written → Json → Prop) : Schema Plan where
  rules := [rule "id" true IsText fun a p => { p with id := a },
    rule "places" false (IsList Stop.IsTold) fun a p => { p with stops := a },
    rule "saved" false IsFlag fun a p => { p with saved := a },
    rule "planning_spec" false Spec fun a p => { p with spec := a }]

theorem follows (depth : Nat) : List.Forall₂ (Follows (depth + 2)) fields (schema (IsValue (depth + 2))).rules :=
  .cons (follows_flat reads_text _ _ _) <| .cons (follows_field (reads_list (Stop.reads depth)) _ _ _) <|
  .cons (follows_flat reads_flag _ _ _) <| .cons (follows_field (reads_value (depth + 2)) _ _ _) .nil

theorem tellsRecord_iff (Spec : Written → Json → Prop) (v : Written) (p : Plan) :
    TellsRecord (schema Spec).rules (named "") v p ↔ IsTold Spec v p := by
  constructor
  · rintro ⟨os, hgives, hcomplete, happlied⟩
    simp only [Complete, schema, List.forall₂_cons_left_iff, List.forall₂_nil_left_iff] at hcomplete
    obtain ⟨id, _, hgiven, ⟨stops, _, -, ⟨saved, _, -, ⟨spec, _, -, rfl, rfl⟩, rfl⟩, rfl⟩, rfl⟩ := hcomplete
    obtain ⟨id, rfl⟩ := Option.isSome_iff_exists.mp (hgiven rfl)
    obtain ⟨_, hid, happlied⟩ := (applied_rule rfl).mp happlied
    obtain ⟨_, hstops, happlied⟩ := (applied_rule rfl).mp happlied
    obtain ⟨_, hsaved, happlied⟩ := (applied_rule rfl).mp happlied
    obtain ⟨_, hspec, rfl⟩ := (applied_rule rfl).mp happlied
    exact ⟨id, stops, saved, spec, hgives, hid, hstops, hsaved, hspec⟩
  · rintro ⟨id, stops, saved, spec, hgives, hid, hstops, hsaved, hspec⟩
    refine ⟨_, hgives, by simp [Complete, schema, rule], ?_⟩
    exact (applied_rule rfl).mpr ⟨_, hid, (applied_rule rfl).mpr ⟨_, hstops, (applied_rule rfl).mpr ⟨_, hsaved,
      (applied_rule rfl).mpr ⟨_, hspec, rfl⟩⟩⟩⟩

theorem reads (depth : Nat) : Reads (read (depth + 3)) (IsTold (IsValue (depth + 2))) :=
  (reads_record (follows depth) (named "")).congr (tellsRecord_iff _)

end Plan

namespace Batch

/-- The members of a batch. -/
def schema (Spec : Written → Json → Prop) : Schema Batch where
  rules := [rule "travel_plans" false (IsList (Plan.IsTold Spec)) fun a b => { b with plans := a },
    rule "trip_details_url" false (IsList IsText) fun a b => { b with detailLinks := a },
    rule "travel_destination" false IsText fun a b => { b with destination := a }]

theorem follows (depth : Nat) : List.Forall₂ (Follows (depth + 4)) fields (schema (IsValue (depth + 2))).rules :=
  have hlinks : Reads (readList (fun _ => readText) (depth + 4)) (IsList IsText) := reads_list reads_text
  .cons (follows_field (reads_list (Plan.reads depth)) _ _ _) <| .cons (follows_field hlinks _ _ _) <|
  .cons (follows_flat reads_text _ _ _) .nil

theorem tellsRecord_iff (Spec : Written → Json → Prop) (v : Written) (b : Batch) :
    TellsRecord (schema Spec).rules empty v b ↔ IsTold Spec v b := by
  constructor
  · rintro ⟨os, hgives, hcomplete, happlied⟩
    simp only [Complete, schema, List.forall₂_cons_left_iff, List.forall₂_nil_left_iff] at hcomplete
    obtain ⟨plans, _, -, ⟨links, _, -, ⟨destination, _, -, rfl, rfl⟩, rfl⟩, rfl⟩ := hcomplete
    obtain ⟨_, hplans, happlied⟩ := (applied_rule rfl).mp happlied
    obtain ⟨_, hlinks, happlied⟩ := (applied_rule rfl).mp happlied
    obtain ⟨_, hdestination, rfl⟩ := (applied_rule rfl).mp happlied
    exact ⟨plans, links, destination, hgives, hplans, hlinks, hdestination⟩
  · rintro ⟨plans, links, destination, hgives, hplans, hlinks, hdestination⟩
    refine ⟨_, hgives, by simp [Complete, schema, rule], ?_⟩
    exact (applied_rule rfl).mpr ⟨_, hplans, (applied_rule rfl).mpr ⟨_, hlinks,
      (applied_rule rfl).mpr ⟨_, hdestination, rfl⟩⟩⟩

theorem reads (depth : Nat) : Reads (read (depth + 5)) (IsTold (IsValue (depth + 2))) :=
  (reads_record (follows depth) empty).congr (tellsRecord_iff _)

end Batch

/-! ## Whole answers -/

/-- How deep brackets may nest in what a plan was searched for: as deep as in a whole text, less those of the batch, of its
list of plans and of the plan. -/
def Plan.specDepth : Nat := maxDepth - 3

namespace Batch

/-- **A text is read as a batch just if its value is accepted**, and then as the batch of which the value tells.  Every value
has a text. -/
theorem read_iff_isTold (v : Written) :
    (∃ cs, SpellsDocument cs v) ∧ ∀ cs, SpellsDocument cs v → ∀ b : Batch,
      readAll read (cs.map some) = .ok b ↔ IsTold (IsValue Plan.specDepth) v b :=
  ⟨⟨v.compact, v.spellsDocument_compact⟩, fun _ hcs b => (reads 122).readAll hcs b⟩

/-- A numeral beyond every double, `1e999`. -/
def beyondDoubles : Numeral :=
  ⟨false, 1, none, some ⟨'e', .inl rfl, none, ⟨['9', '9', '9'], by decide, List.all_eq_true.mp rfl⟩⟩⟩

/-- A batch among other members, whose plan is given as a list and whose place has a number for a time. -/
def mixed : Written :=
  .object [("other", .number beyondDoubles),
    ("travel_plans", .list [.list [.string "a", .list [.object [("start_time", .number (.plain 9))]]]]),
    ("other", .null)]

theorem read_iff_isTold_mixed :
    readAll read (mixed.compact.map some) =
      .ok ⟨[⟨"a", [{ Stop.blank with start := ⟨"9"⟩ }], false, .null⟩], [], ""⟩ := by
  refine ((read_iff_isTold mixed).2 _ mixed.spellsDocument_compact _).mpr ?_
  have hstop : Stop.IsTold (.object [("start_time", .number (.plain 9))]) { Stop.blank with start := ⟨"9"⟩ } := by
    refine ⟨none, none, none, none, some (.number (.plain 9)), none, none, ?_, rfl, rfl, rfl, rfl, ?_, rfl, rfl⟩
    · simp [Written.Gives, valuesOf]
    · exact .inr ⟨9, by decide, rfl, rfl⟩
  have hplan : Plan.IsTold (IsValue Plan.specDepth)
      (.list [.string "a", .list [.object [("start_time", .number (.plain 9))]]])
      ⟨"a", [{ Stop.blank with start := ⟨"9"⟩ }], false, .null⟩ := by
    refine ⟨.string "a", some (.list [.object [("start_time", .number (.plain 9))]]), none, none, ?_, rfl, ?_, rfl, rfl⟩
    · simp [Written.Gives, InOrder]
    · exact ⟨_, rfl, .cons hstop .nil⟩
  refine ⟨some (.list [.list [.string "a", .list [.object [("start_time", .number (.plain 9))]]]]), none, none, ?_, ?_,
    rfl, rfl⟩
  · simp [mixed, Written.Gives, valuesOf]
  · exact ⟨_, rfl, .cons hplan .nil⟩

/-! Not everything that a plan may have been searched for is accepted. -/

/-- A batch with one plan, which was searched for like this. -/
def searchedFor (spec : Written) : Written :=
  .object [("travel_plans", .list [.object [("id", .string "a"), ("planning_spec", spec)]])]

/-- Brackets in brackets. -/
def nested : Nat → Written
  | 0 => .list []
  | n + 1 => .list [nested n]

/-- What a plan was searched for is the only thing that can be wrong with these batches. -/
theorem isTold_searchedFor (spec : Written) :
    IsTold (fun _ _ => True) (searchedFor spec) ⟨[Plan.named "a"], [], ""⟩ := by
  have hplan : Plan.IsTold (fun _ _ => True) (.object [("id", .string "a"), ("planning_spec", spec)])
      (Plan.named "a") := by
    refine ⟨.string "a", none, none, some spec, ?_, rfl, rfl, rfl, trivial⟩
    simp [Written.Gives, valuesOf]
  refine ⟨some (.list [.object [("id", .string "a"), ("planning_spec", spec)]]), none, none, ?_, ?_, rfl, rfl⟩
  · simp [searchedFor, Written.Gives, valuesOf]
  · exact ⟨_, rfl, .cons hplan .nil⟩

set_option maxRecDepth 8000 in
/-- **Two batches that are refused only for what was searched for**: its brackets nest too deep, or one of its numerals is
beyond every double. -/
theorem deep_spec_refused :
    (∃ b, IsTold (fun _ _ => True) (searchedFor (nested 124)) b) ∧
      SpellsDocument (searchedFor (nested 124)).compact (searchedFor (nested 124)) ∧
      readAll read ((searchedFor (nested 124)).compact.map some) = .error .grammar ∧
    (∃ b, IsTold (fun _ _ => True) (searchedFor (.number beyondDoubles)) b) ∧
      SpellsDocument (searchedFor (.number beyondDoubles)).compact (searchedFor (.number beyondDoubles)) ∧
      readAll read ((searchedFor (.number beyondDoubles)).compact.map some) = .error .grammar :=
  ⟨⟨_, isTold_searchedFor _⟩, Written.spellsDocument_compact _, rfl, ⟨_, isTold_searchedFor _⟩,
    Written.spellsDocument_compact _, rfl⟩

end Batch

end PlanBrowser
