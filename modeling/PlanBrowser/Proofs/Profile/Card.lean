import PlanBrowser.Profile
import PlanBrowser.Proofs.Html.Tag
import PlanBrowser.Proofs.Page.Markup
import PlanBrowser.Proofs.Page.Place

/-!
# The cards of a profile page

The page of a profile is read in its written form, tag by tag.  Three kinds of tags count: those of cards, which are
hidden or not, those that delete a plan, and that of the control which shows more plans.  The texts that stand around
them, and the ids of the plans, change nothing about what is read.

* `Profile.Sign`, `Profile.signs` — what counts in a page, in the order of the page;
* `Profile.signs_append`, `Profile.signs_text`, `Profile.signs_tag` — reading it part by part;
* `Profile.signs_savedCard` — **a card** has two signs;
* `Profile.document_toList`, `Profile.exists_document_eq` — the page, with its cards one after the other;
* `Profile.signs_document` — **the signs of a profile page**: those of its cards, and of the control if there is one.
-/

namespace PlanBrowser.Profile

open Html (Piece chars chars_nil chars_cons_markup chars_cons_text toList_literal escapeChars tags attributes value?
  tagsEnd isMark)

/-! ## Signs -/

/-- What counts in the page of a profile. -/
inductive Sign where
  | card (hidden : Bool)
  /-- The control that deletes the plan with an id, which is escaped. -/
  | deletes (id : String)
  /-- The control that shows more plans. -/
  | more
  deriving Repr, DecidableEq

/-- The style hides an element. -/
def hides (style : List Char) : Bool :=
  (Text.pieces ';' style).any fun declaration => Text.trimChars declaration = "display: none".toList

/-- What the attributes of a tag say. -/
def sign? (as : List (List Char × List Char)) : Option Sign :=
  if value? "class" as = some "card rounded mb-2".toList then
    some (.card (hides ((value? "style" as).getD [])))
  else
    match value? "data-planid" as with
    | some id => some (.deletes (String.ofList id))
    | none => if value? "id" as = some "load-more-plans-btn".toList then some .more else none

/-- **What counts in a page**, in the order of its tags. -/
def signs (page : List Char) : List Sign :=
  (tags page).filterMap fun tag => sign? (attributes tag)

/-! ## Reading over a page -/

theorem signs_append {cs : List Char} (h : tagsEnd cs = true) (rest : List Char) :
    signs (cs ++ rest) = signs cs ++ signs rest := by
  rw [signs, Html.tags_append h, List.filterMap_append]
  rfl

theorem signs_text (s : String) (rest : List Char) : signs (escapeChars s.toList ++ rest) = signs rest := by
  rw [signs, Html.tags_text]
  rfl

/-- A piece in which nothing counts: a text, or markup of whole tags that do not count. -/
def isPlain : Piece → Bool
  | .markup s => tagsEnd s.toList && (signs s.toList).isEmpty
  | .text _ => true

theorem signs_markup {s : String} (h : isPlain (.markup s) = true) (rest : List Char) :
    signs (s.toList ++ rest) = signs rest := by
  rw [isPlain, Bool.and_eq_true, List.isEmpty_iff] at h
  rw [signs_append h.1, h.2, List.nil_append]

/-- **Plain pieces** are read over. -/
theorem signs_plain {ps : List Piece} (h : ps.all isPlain = true) (rest : List Char) :
    signs (chars ps ++ rest) = signs rest := by
  induction ps with
  | nil => rfl
  | cons p ps ih =>
    rw [List.all_cons, Bool.and_eq_true] at h
    obtain ⟨hp, hps⟩ := h
    cases p with
    | markup s => rw [chars_cons_markup, List.append_assoc, signs_markup hp, ih hps]
    | text s => rw [chars_cons_text, List.append_assoc, signs_text, ih hps]

/-- **A tag with a text** in one of its attributes. -/
theorem signs_tag {front value back : List Char} (hfront : '<' ∉ front ∧ '>' ∉ front)
    (hvalue : ∀ c ∈ value, isMark c = false) (hback : '<' ∉ back ∧ '>' ∉ back) (rest : List Char) :
    signs ('<' :: (front ++ '"' :: (value ++ '"' :: back) ++ '>' :: rest)) =
      (sign? (Html.paired (Text.pieces '"' front ++ value :: Text.pieces '"' back))).toList ++ signs rest := by
  have hmark : ∀ c, isMark c = true → c ∉ value := fun c hc => Html.not_mem_of_isMark hc hvalue
  have hopen : '<' ∉ front ++ '"' :: (value ++ '"' :: back) := by
    simp [hfront.1, hmark '<' rfl, hback.1]
  have hclose : '>' ∉ front ++ '"' :: (value ++ '"' :: back) := by
    simp [hfront.2, hmark '>' rfl, hback.2]
  rw [signs, Html.tags_tag hopen hclose, List.filterMap_cons, Html.attributes_value (hmark '"' rfl)]
  cases sign? _ with
  | none => rfl
  | some sign => rfl

/-! ## The card of a plan -/

/-- A link of a place does not count. -/
theorem signs_line (s : SavedStop) (rest : List Char) : signs (chars s.line ++ rest) = signs rest := by
  have hbefore : isPlain (.markup "      <li class=\"list-group-item\">") = true := by
    simp only [isPlain, toList_literal]
    decide +kernel
  have hafter : isPlain (.markup "</a></li>\n") = true := by
    simp only [isPlain, toList_literal]
    decide +kernel
  have hchars : chars s.line ++ rest =
      "      <li class=\"list-group-item\">".toList ++
        '<' :: ("a class=\"card-link\" href=".toList ++ '"' :: (escapeChars s.link.toList ++ '"' :: []) ++
          '>' :: (escapeChars s.name.toList ++ ("</a></li>\n".toList ++ rest))) := by
    simp [SavedStop.line, chars_cons_markup, chars_cons_text, chars_nil]
  rw [hchars, signs_markup hbefore,
    signs_tag (by simp) (fun c hc => Html.not_isMark_of_mem_escapeChars hc) (by simp), signs_text,
    signs_markup hafter]
  simp only [toList_literal]
  rfl

theorem signs_lines (stops : List SavedStop) (rest : List Char) :
    signs (chars (stops.flatMap SavedStop.line) ++ rest) = signs rest := by
  induction stops with
  | nil => rfl
  | cons s stops ih => rw [List.flatMap_cons, Html.chars_append, List.append_assoc, signs_line, ih]

/-- The beginning of a card, up to its title. -/
def cardTop (hidden : Bool) : List Piece :=
  [.markup "<div class=\"card rounded mb-2\" style=\"max-width: 350px;", Html.flag hidden " display: none;",
    .markup "\">\n  <div class=\"card-body\">\n    <h5 class=\"card-title\">"]

/-- The title and the date. -/
def cardHeadings (p : SavedPlan) : List Piece :=
  [.text p.destination, .markup "</h5>\n    <h6 class=\"card-subtitle\">", .text p.date,
    .markup "</h6>\n    <ul class=\"list-group list-group-flush\">\n"]

/-- The end of a card, with the control that deletes its plan and the link to the details. -/
def cardBottom (p : SavedPlan) (user : String) : List Piece :=
  [.markup "    </ul>\n    <button type=\"button\" class=\"btn btn-outline-warning m-1 float-end\"",
    .markup " data-planid=\"", .text p.id, .markup "\" data-user=\"", .text user,
    .markup "\">delete</button>\n    <a class=\"btn btn-outline-info float-end m-1\" href=\"plans/",
    .text p.planId, .markup "\" role=\"button\">details</a>\n  </div>\n</div>\n"]

theorem savedCard_eq (p : SavedPlan) (user : String) (i shown : Nat) :
    savedCard p user i shown =
      cardTop (decide (shown ≤ i)) ++ cardHeadings p ++ p.stops.flatMap SavedStop.line ++ cardBottom p user :=
  rfl

theorem signs_cardTop (hidden : Bool) (rest : List Char) :
    signs (chars (cardTop hidden) ++ rest) = .card hidden :: signs rest := by
  have htop : tagsEnd (chars (cardTop hidden)) = true ∧ signs (chars (cardTop hidden)) = [.card hidden] := by
    cases hidden <;>
      simp only [cardTop, Html.flag, chars_cons_markup, chars_nil, toList_literal, if_true, Bool.false_eq_true,
        if_false] <;>
      decide +kernel
  rw [signs_append htop.1, htop.2]
  rfl

theorem signs_cardHeadings (p : SavedPlan) (rest : List Char) :
    signs (chars (cardHeadings p) ++ rest) = signs rest := by
  apply signs_plain
  simp only [cardHeadings, List.all_cons, isPlain, toList_literal]
  decide +kernel

/-- The two tags at the end of a card, taken apart at the texts in their attributes. -/
theorem chars_cardBottom (p : SavedPlan) (user : String) (rest : List Char) :
    chars (cardBottom p user) ++ rest =
      "    </ul>\n    ".toList ++
        '<' :: ("button type=\"button\" class=\"btn btn-outline-warning m-1 float-end\"".toList ++
            " data-planid=".toList ++
          '"' :: (escapeChars p.id.toList ++
            '"' :: (" data-user=".toList ++ '"' :: (escapeChars user.toList ++ ['"']))) ++
          '>' :: ("delete</button>\n    ".toList ++
            '<' :: ("a class=\"btn btn-outline-info float-end m-1\" href=".toList ++
              '"' :: ("plans/".toList ++ escapeChars p.planId.toList ++ '"' :: " role=\"button\"".toList) ++
              '>' :: ("details</a>\n  </div>\n</div>\n".toList ++ rest)))) := by
  have hopen : "    </ul>\n    <button type=\"button\" class=\"btn btn-outline-warning m-1 float-end\"".toList =
      "    </ul>\n    ".toList ++
        '<' :: "button type=\"button\" class=\"btn btn-outline-warning m-1 float-end\"".toList := by
    simp only [toList_literal]
    rfl
  have hid : " data-planid=\"".toList = " data-planid=".toList ++ ['"'] := by
    simp only [toList_literal]
    rfl
  have huser : "\" data-user=\"".toList = '"' :: (" data-user=".toList ++ ['"']) := by
    simp only [toList_literal]
    rfl
  have hdelete : "\">delete</button>\n    <a class=\"btn btn-outline-info float-end m-1\" href=\"plans/".toList =
      '"' :: '>' :: ("delete</button>\n    ".toList ++
        '<' :: ("a class=\"btn btn-outline-info float-end m-1\" href=".toList ++ '"' :: "plans/".toList)) := by
    simp only [toList_literal]
    rfl
  have hdetails : "\" role=\"button\">details</a>\n  </div>\n</div>\n".toList =
      '"' :: (" role=\"button\"".toList ++ '>' :: "details</a>\n  </div>\n</div>\n".toList) := by
    simp only [toList_literal]
    rfl
  simp only [cardBottom, chars_cons_markup, chars_cons_text, chars_nil, hopen, hid, huser, hdelete, hdetails,
    List.append_assoc, List.cons_append, List.nil_append]

theorem signs_cardBottom (p : SavedPlan) (user : String) (rest : List Char) :
    signs (chars (cardBottom p user) ++ rest) = .deletes (Html.escape p.id) :: signs rest := by
  have hbefore : isPlain (.markup "    </ul>\n    ") = true := by
    simp only [isPlain, toList_literal]
    decide +kernel
  have hbetween : isPlain (.markup "delete</button>\n    ") = true := by
    simp only [isPlain, toList_literal]
    decide +kernel
  have hafter : isPlain (.markup "details</a>\n  </div>\n</div>\n") = true := by
    simp only [isPlain, toList_literal]
    decide +kernel
  have hescaped : ∀ s : String, ∀ c ∈ escapeChars s.toList, isMark c = false :=
    fun s c hc => Html.not_isMark_of_mem_escapeChars hc
  have hplace : ∀ c ∈ "plans/".toList ++ escapeChars p.planId.toList, isMark c = false := by
    have hfront : ∀ c ∈ "plans/".toList, isMark c = false := by
      simp [isMark]
    intro c hc
    obtain hc | hc := List.mem_append.mp hc
    · exact hfront c hc
    · exact hescaped p.planId c hc
  have hback : '<' ∉ " data-user=".toList ++ '"' :: (escapeChars user.toList ++ ['"']) ∧
      '>' ∉ " data-user=".toList ++ '"' :: (escapeChars user.toList ++ ['"']) := by
    have hmark : ∀ c, isMark c = true → c ∉ escapeChars user.toList :=
      fun c hc => Html.not_mem_of_isMark hc (hescaped user)
    simp [hmark '<' rfl, hmark '>' rfl]
  rw [chars_cardBottom, signs_markup hbefore, signs_tag (by simp) (hescaped p.id) hback, signs_markup hbetween,
    signs_tag (by simp) hplace (by simp), signs_markup hafter]
  simp only [toList_literal]
  rfl

/-- **The signs of a card**: whether it is hidden, and which plan it is of. -/
theorem signs_savedCard (p : SavedPlan) (user : String) (i shown : Nat) (rest : List Char) :
    signs (chars (savedCard p user i shown) ++ rest) =
      .card (decide (shown ≤ i)) :: .deletes (Html.escape p.id) :: signs rest := by
  simp only [savedCard_eq, Html.chars_append, List.append_assoc]
  rw [signs_cardTop, signs_cardHeadings, signs_lines, signs_cardBottom]

/-! ## The page -/

theorem signs_head (rest : List Char) : signs (chars Page.head ++ rest) = signs rest := by
  have hhead : tagsEnd (chars Page.head) = true ∧ signs (chars Page.head) = [] := by
    simp only [Page.head, chars_cons_markup, chars_nil, toList_literal]
    decide +kernel
  rw [signs_append hhead.1, hhead.2, List.nil_append]

theorem signs_opening (title user : String) (rest : List Char) :
    signs (chars (Page.opening title user) ++ rest) = signs rest := by
  apply signs_plain
  simp only [Page.opening, List.all_cons, isPlain, toList_literal]
  decide +kernel

theorem signs_mostSearched (place : Option String) (rest : List Char) :
    signs (chars ((place.map Page.mostSearchedCard).getD []) ++ rest) = signs rest := by
  cases place with
  | none => rfl
  | some place =>
    apply signs_plain
    simp only [Option.map_some, Option.getD_some, Page.mostSearchedCard, List.all_cons, isPlain, toList_literal]
    decide +kernel

theorem signs_foot : signs (chars Page.foot) = [] := by
  simp only [Page.foot, chars_cons_markup, chars_nil, toList_literal]
  decide +kernel

/-- What comes before the cards. -/
def pageTop (user : String) (place : Option String) : List Piece :=
  Page.head ++ Page.opening user user ++ (place.map Page.mostSearchedCard).getD [] ++
    [.markup "<div id=\"cards\">\n"]

theorem signs_pageTop (user : String) (place : Option String) (rest : List Char) :
    signs (chars (pageTop user place) ++ rest) = signs rest := by
  have hlist : [Piece.markup "<div id=\"cards\">\n"].all isPlain = true := by
    simp only [List.all_cons, isPlain, toList_literal]
    decide +kernel
  simp only [pageTop, Html.chars_append, List.append_assoc]
  rw [signs_head, signs_opening, signs_mostSearched, signs_plain hlist]

/-- What follows the cards: the control that shows more plans, if there are more. -/
def pageBottom (more : Bool) : List Piece :=
  [.markup "</div>\n", Html.flag more ("<button id=\"load-more-plans-btn\" type=\"button\""
    ++ " class=\"btn btn-outline-primary\">load more</button>\n"), .markup "</main>\n"]

theorem signs_pageBottom (more : Bool) (rest : List Char) :
    signs (chars (pageBottom more) ++ rest) = (if more then [.more] else []) ++ signs rest := by
  have hbottom : tagsEnd (chars (pageBottom more)) = true ∧
      signs (chars (pageBottom more)) = if more then [.more] else [] := by
    cases more <;>
      simp only [pageBottom, Html.flag, chars_cons_markup, chars_nil, String.toList_append, toList_literal, if_true,
        Bool.false_eq_true, if_false] <;>
      decide +kernel
  rw [signs_append hbottom.1, hbottom.2]

theorem page_eq (user : String) (place : Option String) (cards : List Piece) (more : Bool) :
    Page.profile user place cards more = pageTop user place ++ cards ++ pageBottom more ++ Page.foot := by
  simp only [Page.profile, pageTop, pageBottom, List.append_assoc, List.cons_append, List.nil_append]

/-- The written cards, one after the other. -/
def writtenCards (p : Profile) : List Char :=
  p.plans.zipIdx.flatMap fun q => chars (savedCard q.1 p.user q.2 p.shown)

theorem flatMap_cards (p : Profile) : p.cards.flatMap String.toList = p.writtenCards := by
  rw [cards, List.mapIdx_eq_zipIdx_map, List.flatMap_map]
  apply List.flatMap_congr
  intro q _
  exact String.toList_ofList

/-- The page of a profile, part by part. -/
theorem document_toList (p : Profile) :
    p.document.toList =
      chars (pageTop p.user p.mostSearched) ++
        (p.writtenCards ++ (chars (pageBottom p.moreVisible) ++ chars Page.foot)) := by
  have hcount : p.cards.length = p.plans.length := List.length_mapIdx
  have hmore : p.moreVisible = decide (p.shown < p.cards.length) := by
    rw [hcount, moreVisible]
  rw [document, profilePage, Html.render, String.toList_ofList, ← hmore, page_eq]
  simp only [Html.chars_append, Html.chars_map_markup, flatMap_cards, List.append_assoc]

/-! ## The signs of a page -/

/-- The cards of some plans, from an index on. -/
theorem signs_cardsFrom (user : String) (shown first : Nat) (plans : List SavedPlan) (rest : List Char) :
    signs (((plans.zipIdx first).flatMap fun q => chars (savedCard q.1 user q.2 shown)) ++ rest) =
      ((plans.zipIdx first).flatMap fun q => [.card (decide (shown ≤ q.2)), .deletes (Html.escape q.1.id)]) ++
        signs rest := by
  induction plans generalizing first with
  | nil => rfl
  | cons p plans ih =>
    rw [List.zipIdx_cons, List.flatMap_cons, List.flatMap_cons, List.append_assoc, signs_savedCard, ih]
    rfl

/-- **The signs of a profile page**: a card for each plan, hidden from the number that is shown on, and the control that
shows more plans, if there are more. -/
theorem signs_document (p : Profile) :
    signs p.document.toList =
      (p.plans.zipIdx.flatMap fun q => [.card (decide (p.shown ≤ q.2)), .deletes (Html.escape q.1.id)]) ++
        if p.moreVisible then [.more] else [] := by
  rw [document_toList, signs_pageTop, writtenCards, signs_cardsFrom, signs_pageBottom, signs_foot, List.append_nil]

/-- **The cards stand together** in the page, and nothing around them counts but the control that shows more plans. -/
theorem exists_document_eq (p : Profile) :
    ∃ before after,
      p.document.toList =
        before ++ (p.plans.zipIdx.flatMap fun q => chars (savedCard q.1 p.user q.2 p.shown)) ++ after ∧
      signs before = [] ∧ signs after = if p.moreVisible then [.more] else [] := by
  refine ⟨chars (pageTop p.user p.mostSearched), chars (pageBottom p.moreVisible) ++ chars Page.foot, ?_, ?_, ?_⟩
  · rw [document_toList, List.append_assoc]
    rfl
  · have htop := signs_pageTop p.user p.mostSearched []
    rw [List.append_nil] at htop
    exact htop
  · rw [signs_pageBottom, signs_foot, List.append_nil]

end PlanBrowser.Profile
