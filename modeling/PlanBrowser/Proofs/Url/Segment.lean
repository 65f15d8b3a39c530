import PlanBrowser.Proofs.Url.Form
import PlanBrowser.Url.Derive

/-!
# Segments that are put into a path

A segment is put into a path character by character, and whatever parts a path or a URL is encoded.  So it is found again
between the slashes, and decoded as what it was.  There are three exceptions.  A segment of dots is passed over.  Tabs and
the ends of lines are left out.  And if only dots are left after that, they work as dots do in any path: one of them leaves
an empty segment, and two of them take the place of the segment in front.

* `Url.percentDecode_percentEncode` — **what was encoded is decoded again**;
* `Url.isDot_percentEncode`, `Url.isDoubleDot_percentEncode` — an encoded segment works as dots only if it is dots;
* `Url.stripped`, `Url.placed`, `Url.append_special` — **what becomes of a segment** of a special URL;
* `Url.IsKept`, `Url.foldl_append_root` — **segments that come through**;
* `Url.pieces_joined_segments`, `Url.map_segmentText?_encoded` — **what a path says** between its slashes;
* `Url.chars_segments_inj`, `Url.text_withPath_inj` — when URLs that differ in their paths only are the same.
-/

namespace PlanBrowser.Url

open PlanBrowser.Text

/-! ## Encoded texts -/

/-- **What was encoded is decoded again**, if the percent sign is encoded too. -/
theorem percentDecode_percentEncode {escapes : Escapes} (h : escapes '%' = true) (cs : List Char) :
    percentDecode (percentEncode escapes cs) = Utf8.encode cs := by
  induction cs with
  | nil => rfl
  | cons c cs ih =>
    show percentDecode (percentEncodeChar escapes c ++ percentEncode escapes cs) = Utf8.encodeChar c ++ Utf8.encode cs
    rw [percentEncodeChar]
    split
    · rw [percentDecode_codes, ih]
    · next hbare =>
      have hc : c ≠ '%' := by
        rintro rfl
        exact hbare h
      show percentDecode (c :: percentEncode escapes cs) = _
      rw [percentDecode_cons_of_ne hc, ih]

theorem percentEncode_inj {escapes : Escapes} (h : escapes '%' = true) {cs ds : List Char} :
    percentEncode escapes cs = percentEncode escapes ds ↔ cs = ds := by
  constructor
  · intro heq
    apply Utf8.encode_inj.mp
    rw [← percentDecode_percentEncode h, heq, percentDecode_percentEncode h]
  · rintro rfl
    rfl

/-- No slash is left in an encoded text, if slashes are encoded. -/
theorem slash_not_mem_percentEncode {escapes : Escapes} (h : escapes '/' = true) (cs : List Char) :
    '/' ∉ percentEncode escapes cs := by
  intro hmem
  obtain ⟨c, -, hc⟩ := List.mem_flatMap.mp hmem
  rw [percentEncodeChar] at hc
  split at hc
  · obtain ⟨b, -, hb⟩ := List.mem_flatMap.mp hc
    exact absurd (isWritten_of_mem_percentCode hb) (by decide)
  · next hbare =>
    rw [List.mem_singleton] at hc
    exact hbare (hc ▸ h)

/-! ## Dots -/

/-- A character is in lower case already, or it is a letter whose lower case comes 32 places later. -/
theorem eq_or_upper_of_toLower {c d : Char} (h : c.toLower = d) :
    c = d ∨ 65 ≤ c.toNat ∧ c.toNat + 32 = d.toNat := by
  by_cases hupper : c.val ≥ 'A'.val ∧ c.val ≤ 'Z'.val
  · subst h
    have hlow : 65 ≤ c.toNat := hupper.1
    have hhigh : c.toNat ≤ 90 := hupper.2
    have hlower : c.toLower.val = c.val + 32 := congrArg Char.val (dif_pos hupper)
    right
    refine ⟨hlow, ?_⟩
    show c.toNat + 32 = c.toLower.val.toNat
    rw [hlower, UInt32.toNat_add]
    show _ = (c.toNat + 32) % 2 ^ 32
    omega
  · have hsame : c.toLower = c := dif_neg hupper
    exact .inl (hsame.symm.trans h)

/-- What comes before the lower letters has no other case. -/
theorem eq_of_toLower {c d : Char} (hd : d.toNat < 97) (h : c.toLower = d) : c = d := by
  obtain heq | ⟨hlow, hsum⟩ := eq_or_upper_of_toLower h
  · exact heq
  · omega

/-- The code of a dot, in any case, is decoded as a dot. -/
theorem percentDecode_dotCode {cs : List Char} (h : cs.map Char.toLower = ['%', '2', 'e']) (rest : List Char) :
    percentDecode (cs ++ rest) = 0x2E :: percentDecode rest := by
  have he {c : Char} (hlower : c.toLower = 'e') : c = 'e' ∨ c = 'E' := by
    obtain heq | ⟨hlow, hsum⟩ := eq_or_upper_of_toLower hlower
    · exact .inl heq
    · right
      apply Char.toNat_inj.mp
      change c.toNat + 32 = 101 at hsum
      show c.toNat = 69
      omega
  obtain ⟨a, as, rfl, ha, has⟩ := List.map_eq_cons_iff.mp h
  obtain ⟨b, bs, rfl, hb, hbs⟩ := List.map_eq_cons_iff.mp has
  obtain ⟨c, cs, rfl, hc, hcs⟩ := List.map_eq_cons_iff.mp hbs
  obtain rfl := List.map_eq_nil_iff.mp hcs
  obtain rfl := eq_of_toLower (by decide) ha
  obtain rfl := eq_of_toLower (by decide) hb
  show percentDecode ('%' :: '2' :: c :: rest) = _
  obtain rfl | rfl := he hc
  · rw [percentDecode]
    rfl
  · rw [percentDecode]
    rfl

theorem percentDecode_dot (rest : List Char) : percentDecode ('.' :: rest) = 0x2E :: percentDecode rest :=
  percentDecode_cons_of_ne (by decide) rest

/-- What works as a dot says a dot. -/
theorem percentDecode_of_isDot {cs : List Char} (h : isDot cs = true) : percentDecode cs = [0x2E] := by
  rw [isDot, Bool.or_eq_true, beq_iff_eq, beq_iff_eq] at h
  obtain rfl | h := h
  · rfl
  · have hcode := percentDecode_dotCode h []
    rwa [List.append_nil] at hcode

/-- What works as two dots says two dots. -/
theorem percentDecode_of_isDoubleDot {cs : List Char} (h : isDoubleDot cs = true) : percentDecode cs = [0x2E, 0x2E] := by
  have hdot {c : Char} (hlower : c.toLower = '.') : c = '.' := eq_of_toLower (by decide) hlower
  have hcode (ds : List Char) (hds : ds.map Char.toLower = ['%', '2', 'e']) : percentDecode ds = [0x2E] := by
    have hdecode := percentDecode_dotCode hds []
    rwa [List.append_nil] at hdecode
  simp only [isDoubleDot, Bool.or_eq_true, beq_iff_eq] at h
  obtain ((h | h) | h) | h := h
  · obtain ⟨a, as, rfl, ha, has⟩ := List.map_eq_cons_iff.mp h
    obtain ⟨b, rfl, hb⟩ := List.map_eq_singleton_iff.mp has
    rw [hdot ha, hdot hb]
    rfl
  · obtain ⟨a, as, rfl, ha, has⟩ := List.map_eq_cons_iff.mp h
    rw [hdot ha, percentDecode_dot, hcode as has]
  · change cs.map Char.toLower = ['%', '2', 'e'] ++ ['.'] at h
    obtain ⟨front, back, rfl, hfront, hback⟩ := List.map_eq_append_iff.mp h
    obtain ⟨b, rfl, hb⟩ := List.map_eq_singleton_iff.mp hback
    rw [percentDecode_dotCode hfront, hdot hb]
    rfl
  · change cs.map Char.toLower = ['%', '2', 'e'] ++ ['%', '2', 'e'] at h
    obtain ⟨front, back, rfl, hfront, hback⟩ := List.map_eq_append_iff.mp h
    rw [percentDecode_dotCode hfront, hcode back hback]

/-- **An encoded segment works as a dot only if it is one.** -/
theorem isDot_percentEncode (cs : List Char) :
    isDot (percentEncode specialSegmentEscapes cs) = true ↔ cs = ['.'] := by
  constructor
  · intro h
    have hdecode : percentDecode (percentEncode specialSegmentEscapes cs) = Utf8.encode cs :=
      percentDecode_percentEncode rfl cs
    rw [percentDecode_of_isDot h] at hdecode
    exact Utf8.encode_inj.mp hdecode.symm
  · rintro rfl
    rfl

/-- **An encoded segment works as two dots only if it is two dots.** -/
theorem isDoubleDot_percentEncode (cs : List Char) :
    isDoubleDot (percentEncode specialSegmentEscapes cs) = true ↔ cs = ['.', '.'] := by
  constructor
  · intro h
    have hdecode : percentDecode (percentEncode specialSegmentEscapes cs) = Utf8.encode cs :=
      percentDecode_percentEncode rfl cs
    rw [percentDecode_of_isDoubleDot h] at hdecode
    exact Utf8.encode_inj.mp hdecode.symm
  · rintro rfl
    rfl

/-! ## One segment -/

/-- A segment of one or two dots. -/
def IsDots (s : String) : Prop :=
  s = "." ∨ s = ".."

instance (s : String) : Decidable (IsDots s) :=
  inferInstanceAs (Decidable (_ ∨ _))

/-- **What is left of a segment** without tabs and the ends of lines. -/
def stripped (s : String) : List Char :=
  s.toList.filter fun c => c != '\t' && c != '\n' && c != '\r'

/-- What is left of a segment, as it stands in the path of a special URL. -/
def encoded (s : String) : String :=
  String.ofList (percentEncode specialSegmentEscapes (stripped s))

/-- **What a segment of a path says**, if it is a text. -/
def segmentText? (cs : List Char) : Option String :=
  (Utf8.decode? (percentDecode cs)).map String.ofList

theorem slash_not_mem_encoded (s : String) : '/' ∉ (encoded s).toList := by
  rw [encoded, String.toList_ofList]
  exact slash_not_mem_percentEncode rfl _

/-- Encoding leaves something of every text but the empty one. -/
theorem ofList_percentEncode_ne_empty {cs : List Char} (h : cs ≠ []) :
    String.ofList (percentEncode specialSegmentEscapes cs) ≠ "" := by
  intro hempty
  have hnil : percentEncode specialSegmentEscapes cs = percentEncode specialSegmentEscapes [] :=
    String.ofList_inj.mp hempty
  exact h ((percentEncode_inj rfl).mp hnil)

/-- A segment in a path says what is left of it. -/
theorem segmentText?_encoded (s : String) : segmentText? (encoded s).toList = some (String.ofList (stripped s)) := by
  rw [segmentText?, encoded, String.toList_ofList, percentDecode_percentEncode rfl, Utf8.decode?_encode]
  rfl

/-- The segments that another one is put behind: the slash of a root is none. -/
def frontOf (ss : List String) : List String :=
  if ss = [""] then [] else ss

/-- **A path with what is left of one more segment.** -/
def placed (ss : List String) (cs : List Char) : List String :=
  if cs = ['.', '.'] then ss.dropLast ++ [""]
  else if cs = ['.'] then ss ++ [""]
  else ss ++ [String.ofList (percentEncode specialSegmentEscapes cs)]

/-- **What becomes of a segment** that is put into the path of a special URL. -/
theorem append_special (ss : List String) (s : String) :
    append .special ss s = if IsDots s then ss else placed (frontOf ss) (stripped s) := by
  have hshorten : shorten .special (frontOf ss) = (frontOf ss).dropLast := by
    match frontOf ss with
    | [] => rfl
    | [_] => rfl
    | _ :: _ :: _ => rfl
  have hdots : (s = "." || s = "..") = true ↔ IsDots s := by
    rw [Bool.or_eq_true, decide_eq_true_iff, decide_eq_true_iff]
    rfl
  by_cases h : IsDots s
  · rw [append, if_pos (hdots.mpr h), if_pos h]
  · rw [append, if_neg (mt hdots.mp h), if_neg h]
    show enter .special (frontOf ss) (percentEncode specialSegmentEscapes (stripped s)) true = _
    rw [enter, placed]
    simp only [isDoubleDot_percentEncode, isDot_percentEncode, hshorten]
    rfl

/-! ## Segments that come through -/

/-- **A segment that comes through**: it is not dots, and it has no tab and no end of a line. -/
structure IsKept (s : String) : Prop where
  not_dots : ¬ IsDots s
  bare : ∀ c ∈ s.toList, c ≠ '\t' ∧ c ≠ '\n' ∧ c ≠ '\r'

theorem IsKept.stripped_eq {s : String} (h : IsKept s) : stripped s = s.toList := by
  rw [stripped, List.filter_eq_self]
  intro c hc
  obtain ⟨htab, hline, hreturn⟩ := h.bare c hc
  simp [htab, hline, hreturn]

theorem isKept_iff {s : String} : IsKept s ↔ ¬ IsDots s ∧ stripped s = s.toList := by
  constructor
  · intro h
    exact ⟨h.not_dots, h.stripped_eq⟩
  · rintro ⟨hdots, hstripped⟩
    refine ⟨hdots, ?_⟩
    intro c hc
    rw [← hstripped, stripped, List.mem_filter] at hc
    simpa [and_assoc] using hc.2

instance (s : String) : Decidable (IsKept s) :=
  decidable_of_iff _ isKept_iff.symm

/-- A segment that is dots only after stripping does not come through. -/
theorem not_isKept_of_stripped {s : String} (h : stripped s = ['.'] ∨ stripped s = ['.', '.']) : ¬ IsKept s := by
  rw [isKept_iff]
  rintro ⟨hdots, hstripped⟩
  rw [hstripped] at h
  apply hdots
  obtain h | h := h
  · exact .inl (String.toList_inj.mp h)
  · exact .inr (String.toList_inj.mp h)

theorem IsKept.segmentText?_encoded {s : String} (h : IsKept s) : segmentText? (encoded s).toList = some s := by
  rw [Url.segmentText?_encoded, h.stripped_eq, String.ofList_toList]

theorem IsKept.append_special (ss : List String) {s : String} (h : IsKept s) :
    append .special ss s = frontOf ss ++ [encoded s] := by
  have htwo : stripped s ≠ ['.', '.'] := fun heq => not_isKept_of_stripped (.inr heq) h
  have hone : stripped s ≠ ['.'] := fun heq => not_isKept_of_stripped (.inl heq) h
  rw [Url.append_special, if_neg h.not_dots, placed, if_neg htwo, if_neg hone]
  rfl

/-- Segments that come through are put at the end of a path, one after the other. -/
theorem foldl_append_special {ss before : List String} (h : ∀ s ∈ ss, IsKept s) (hne : before ≠ [])
    (hroot : before ≠ [""]) : ss.foldl (append .special) before = before ++ ss.map encoded := by
  induction ss generalizing before with
  | nil => exact (List.append_nil before).symm
  | cons s ss ih =>
    have hlong : before ++ [encoded s] ≠ [""] := by
      intro heq
      have hlength := congrArg List.length heq
      have hpos : 0 < before.length := List.length_pos_iff.mpr hne
      rw [List.length_append, List.length_singleton, List.length_singleton] at hlength
      omega
    rw [List.foldl_cons, (h s List.mem_cons_self).append_special, frontOf, if_neg hroot,
      ih (fun t ht => h t (List.mem_cons_of_mem s ht)) (by simp) hlong, List.append_assoc]
    rfl

/-- **Segments that come through are the path of a root**, if the first one is not empty. -/
theorem foldl_append_root {first : String} {rest : List String} (hfirst : first ≠ "")
    (h : ∀ s ∈ first :: rest, IsKept s) :
    (first :: rest).foldl (append .special) [""] = (first :: rest).map encoded := by
  have hkept : IsKept first := h first List.mem_cons_self
  have hne : encoded first ≠ "" := by
    apply ofList_percentEncode_ne_empty
    rw [hkept.stripped_eq]
    exact fun hnil => hfirst (String.toList_eq_nil_iff.mp hnil)
  have hroot : [encoded first] ≠ [""] := fun heq => hne (List.singleton_inj.mp heq)
  rw [List.foldl_cons, hkept.append_special, frontOf, if_pos rfl, List.nil_append,
    foldl_append_special (fun s hs => h s (List.mem_cons_of_mem first hs)) (List.cons_ne_nil _ _) hroot]
  rfl

/-! ## Paths between their slashes -/

theorem chars_segments {ss : List String} (h : ss ≠ []) :
    (Path.segments ss).chars = '/' :: joined ['/'] (ss.map String.toList) := by
  induction ss with
  | nil => exact absurd rfl h
  | cons s ss ih =>
    cases ss with
    | nil => exact List.append_nil _
    | cons t ss =>
      have hjoined : joined ['/'] ((s :: t :: ss).map String.toList) =
          s.toList ++ ['/'] ++ joined ['/'] ((t :: ss).map String.toList) := rfl
      show '/' :: (s.toList ++ (Path.segments (t :: ss)).chars) = _
      rw [ih (List.cons_ne_nil t ss), hjoined, List.append_assoc]
      rfl

/-- **Segments of a path**: there is one at least, and no slash in any of them. -/
structure AreSegments (ss : List String) : Prop where
  ne_nil : ss ≠ []
  no_slash : ∀ s ∈ ss, '/' ∉ s.toList

/-- **The segments are found between the slashes** of their path. -/
theorem AreSegments.pieces_joined {ss : List String} (h : AreSegments ss) :
    pieces '/' (joined ['/'] (ss.map String.toList)) = ss.map String.toList := by
  apply Text.pieces_joined (fun hnil => h.ne_nil (List.map_eq_nil_iff.mp hnil))
  intro p hp
  obtain ⟨s, hs, rfl⟩ := List.mem_map.mp hp
  exact h.no_slash s hs

/-- Paths are the same just if their segments are. -/
theorem AreSegments.chars_inj {ss ts : List String} (hss : AreSegments ss) (hts : AreSegments ts) :
    (Path.segments ss).chars = (Path.segments ts).chars ↔ ss = ts := by
  constructor
  · intro h
    rw [chars_segments hss.ne_nil, chars_segments hts.ne_nil, List.cons_inj_right] at h
    have hpieces := congrArg (pieces '/') h
    rw [hss.pieces_joined, hts.pieces_joined] at hpieces
    exact (List.map_inj_right fun _ _ => String.toList_inj.mp).mp hpieces
  · rintro rfl
    rfl

/-- Whatever is put into a path, it is made of segments again. -/
theorem AreSegments.append {ss : List String} (h : AreSegments ss) (s : String) :
    AreSegments (append .special ss s) := by
  have hconcat {ts : List String} (hts : ts ⊆ ss) {t : String} (ht : '/' ∉ t.toList) : AreSegments (ts ++ [t]) := by
    refine ⟨List.concat_ne_nil t ts, ?_⟩
    intro u hu
    obtain hu | hu := List.mem_append.mp hu
    · exact h.no_slash u (hts hu)
    · rwa [List.mem_singleton.mp hu]
  have hfront : frontOf ss ⊆ ss := by
    rw [frontOf]
    split
    · exact List.nil_subset ss
    · exact List.Subset.refl ss
  rw [append_special]
  split
  · exact h
  · rw [placed]
    split
    · exact hconcat (List.Subset.trans (List.dropLast_subset _) hfront) (by decide)
    · split
      · exact hconcat hfront (by decide)
      · exact hconcat hfront (slash_not_mem_encoded s)

/-- **The path of a root is made of segments**, whatever is put into it. -/
theorem areSegments_foldl (ss : List String) : AreSegments (ss.foldl (append .special) [""]) := by
  have hroot : AreSegments [""] := ⟨by decide, by decide⟩
  have hfold {before : List String} (h : AreSegments before) : AreSegments (ss.foldl (Url.append .special) before) := by
    induction ss generalizing before with
    | nil => exact h
    | cons s ss ih => exact ih (h.append s)
  exact hfold hroot

/-- **A path of segments that come through says them.** -/
theorem map_segmentText?_encoded {ss : List String} (h : ∀ s ∈ ss, IsKept s) :
    ((ss.map encoded).map String.toList).map segmentText? = ss.map some := by
  rw [List.map_map, List.map_map]
  apply List.map_congr_left
  intro s hs
  rw [Function.comp_apply, Function.comp_apply]
  exact (h s hs).segmentText?_encoded

/-- URLs that differ in their paths only are the same just if the paths are. -/
theorem text_withPath_inj (u : Url) (p q : Path) :
    ({ u with path := p } : Url).text = ({ u with path := q } : Url).text ↔ p.chars = q.chars := by
  rw [text, text, String.ofList_inj]
  show u.origin ++ p.chars ++ marked '?' u.query ++ marked '#' u.fragment =
    u.origin ++ q.chars ++ marked '?' u.query ++ marked '#' u.fragment ↔ _
  rw [List.append_left_inj, List.append_left_inj, List.append_right_inj]

end PlanBrowser.Url
