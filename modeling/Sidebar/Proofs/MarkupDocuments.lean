import Sidebar.Widget.Instance
import Sidebar.Proofs.CaseFolding
/-!
# The markup of a rich text block

`Widget::markup` and `Widget::set_text` in `crates/panelkit-widgets/src/widget.rs`.

A rich text block shows its configured markup, or its current text when it has none, as a
document. A source that already opens a document, some white space and then `<html` in any
ASCII case (`Markup.OpensDocument`), is shown as it is; any other is wrapped as the body of
one (`Markup.document_of_opens`, `Markup.document_of_not_opens`). A wrapped source opens a
document, so wrapping twice is wrapping once (`Markup.document_document`).

Setting a block's text to its own markup therefore leaves the markup as it was, as long as the
text the change leaves is the one set: no subscriber to the text's changes sets or updates it
on being told it (`Widget.markup_setText_quiet`). A subscriber that does set it again decides what
the text, and so the markup, ends as (`Widget.markup_setText`, `setText_own_markup_rewritten`).
-/

namespace Sidebar

namespace Markup

/-- A source opens a document when it is some white space, then `<html` with any of its letters
in capitals, then anything. -/
def OpensDocument (t : String) : Prop :=
  ∃ blank tag rest, t.toList = blank ++ tag ++ rest ∧ (∀ c ∈ blank, Text.isBlank c = true) ∧
    Text.SpellsUpToCase tag documentTag.toList

theorem documentTag_no_capital :
    ∀ d ∈ documentTag.toList, ¬ (0x41 ≤ d.toNat ∧ d.toNat ≤ 0x5A) := by
  have hall : documentTag.toList.all
      (fun d => decide (¬ (0x41 ≤ d.toNat ∧ d.toNat ≤ 0x5A))) = true := by
    decide
  exact fun d hd => of_decide_eq_true (List.all_eq_true.1 hall d hd)

/-- A text that spells the tag up to case starts with `<`, which is no white space. -/
theorem not_isBlank_of_spells {tag rest : List Char}
    (h : Text.SpellsUpToCase tag documentTag.toList) :
    (tag ++ rest).dropWhile Text.isBlank = tag ++ rest := by
  have htag : documentTag.toList = '<' :: "html".toList := by decide
  rw [htag] at h
  cases tag with
  | nil => exact absurd h (by simp [Text.SpellsUpToCase])
  | cons c tag =>
    have hc : c = '<' := by
      have hlt : c = '<' ∨ c = '<'.toUpper := (Text.SpellsUpToCase.cons_iff.1 h).1
      rcases hlt with hc | hc
      · exact hc
      · exact hc.trans (by decide)
    rw [hc, List.cons_append, List.dropWhile_cons_of_neg (by decide)]

/-- **A source is taken for a document exactly when it opens one.** `isDocument` trims the white
space, folds the first five characters to ASCII lower case and compares them with `<html`. -/
theorem isDocument_iff (t : String) : isDocument t = true ↔ OpensDocument t := by
  have htrim : (Text.trimBlankStart t).toList = t.toList.dropWhile Text.isBlank :=
    String.toList_ofList
  have hlen : documentTag.length = 5 := by decide
  have hlen' : documentTag.toList.length = 5 := by decide
  unfold isDocument
  rw [htrim, hlen, beq_iff_eq, Text.map_toLower_eq_iff documentTag_no_capital]
  constructor
  · -- the white space is what the trimming dropped, the tag the next five characters
    intro h
    refine ⟨t.toList.takeWhile Text.isBlank, (t.toList.dropWhile Text.isBlank).take 5,
      (t.toList.dropWhile Text.isBlank).drop 5, ?_,
      fun c hc => List.all_eq_true.1 List.all_takeWhile c hc, h⟩
    rw [List.append_assoc, List.take_append_drop, List.takeWhile_append_dropWhile]
  · rintro ⟨blank, tag, rest, ht, hblank, htag⟩
    have h5 : tag.length = 5 := htag.length_eq.trans hlen'
    rw [ht, List.append_assoc, List.dropWhile_append_of_pos hblank, not_isBlank_of_spells htag,
      List.take_left' h5]
    exact htag

theorem document_of_opens {t : String} (h : OpensDocument t) : document t = t :=
  document_of_isDocument ((isDocument_iff t).2 h)

theorem document_of_not_opens {t : String} (h : ¬ OpensDocument t) :
    document t = "<html><body>" ++ t ++ "</body></html>" := by
  have hnot : isDocument t = false := by
    rw [← Bool.not_eq_true, isDocument_iff]
    exact h
  simp [document, hnot]

/-- A wrapped source opens a document: it starts with `<html`. -/
theorem opens_wrapped (t : String) : OpensDocument ("<html><body>" ++ t ++ "</body></html>") := by
  have hopen : "<html><body>".toList = documentTag.toList ++ "><body>".toList := by decide
  refine ⟨[], documentTag.toList, "><body>".toList ++ t.toList ++ "</body></html>".toList,
    ?_, fun c hc => absurd hc List.not_mem_nil, ?_⟩
  · simp only [String.toList_append, hopen, List.nil_append, List.append_assoc]
  · exact List.forall₂_same.2 fun _ _ => Or.inl rfl

/-- Every document shown opens a document. -/
theorem opens_document (t : String) : OpensDocument (document t) := by
  by_cases h : OpensDocument t
  · rw [document_of_opens h]
    exact h
  · rw [document_of_not_opens h]
    exact opens_wrapped t

/-- **Wrapping is idempotent.** -/
theorem document_document (t : String) : document (document t) = document t :=
  document_of_opens (opens_document t)

end Markup

namespace Subscriber

/-- Called with `v`, the subscriber changes nothing: every call it makes is a subscription. -/
def Quiet {α : Type} (v : α) (sub : Subscriber α) : Prop :=
  ∀ c ∈ sub.react v, ∃ s, c = .subscribe s

end Subscriber

namespace Signal

variable {α : Type}

/-- Calls that only subscribe open no change: they finish, whatever the changes opened would do,
and leave the value. -/
theorem perform_subscriptions (nested : Run α → α → Option (Run α)) (calls : List (Call α))
    (hq : ∀ c ∈ calls, ∃ s, c = .subscribe s) (r : Run α) :
    ∃ r', perform nested r calls = some r' ∧ r'.signal.value = r.signal.value := by
  induction calls generalizing r with
  | nil => exact ⟨r, rfl, rfl⟩
  | cons c calls ih =>
    obtain ⟨⟨sub, rfl⟩, hrest⟩ := List.forall_mem_cons.1 hq
    exact ih hrest (r.subscribe sub)

/-- **Subscribers that change nothing leave the value.** A notification of subscribers each quiet
on `v` returns, whatever the changes they could open would do, with the value it started
from. -/
theorem notifyWith_quiet (nested : Run α → α → Option (Run α)) (v : α) (subs : List (Subscriber α))
    (hq : ∀ sub ∈ subs, sub.Quiet v) (r : Run α) :
    ∃ r', notifyWith nested r v subs = some r' ∧ r'.signal.value = r.signal.value := by
  induction subs generalizing r with
  | nil => exact ⟨r, rfl, rfl⟩
  | cons sub rest ih =>
    obtain ⟨hsub, hrest⟩ := List.forall_mem_cons.1 hq
    -- the subscriber is logged and only subscribes; the loop goes on from there
    obtain ⟨r₁, hr₁, hv₁⟩ := perform_subscriptions nested (sub.react v) hsub (r.called sub.name v)
    obtain ⟨r', hr', hv'⟩ := ih hrest r₁
    refine ⟨r', ?_, hv'.trans hv₁⟩
    simp only [notifyWith, hr₁]
    exact hr'

/-- A set that no subscriber answers by changing the value stores the value it was given. -/
theorem set_quiet (s : Signal α) (v : α) (hq : ∀ sub ∈ s.subscribers, sub.Quiet v) :
    ∃ r, s.set v = some r ∧ r.signal.value = v := by
  unfold set
  cases depthBound with
  | zero => exact notifyWith_quiet _ v _ hq _
  | succ d => exact notifyWith_quiet _ v _ hq _

end Signal

namespace Widget

/-- The markup of a widget: the document of its source for a rich text block, none for any other
kind. -/
theorem markup_cases (w : Widget) :
    (∃ r, w.spec.kindSpec = .richText r ∧
      w.markup = some (Markup.document (if r.html.isEmpty then w.currentText else r.html))) ∨
    ((∀ r, w.spec.kindSpec ≠ .richText r) ∧ w.markup = none) := by
  unfold markup
  split
  · rename_i r hr
    exact .inl ⟨r, hr, rfl⟩
  · rename_i hnot
    exact .inr ⟨hnot, rfl⟩

theorem setText_spec {w w' : Widget} {t : String} {log : Array (String × String)}
    (h : w.setText t = some (w', log)) : w'.spec = w.spec := by
  unfold setText at h
  obtain ⟨r, -, hr⟩ := Option.map_eq_some_iff.1 h
  cases hr
  rfl

/-- The markup of a block without configured markup is the document of its current text. -/
theorem markup_of_html_empty {w : Widget} {r : RichTextSpec} (hr : w.spec.kindSpec = .richText r)
    (hhtml : r.html = "") : w.markup = some (Markup.document w.currentText) := by
  have hempty : r.html.isEmpty = true := by rw [hhtml]; rfl
  simp [markup, hr, hempty]

/-- **After any text change, a block without configured markup shows the document of the text
the change leaves.** -/
theorem markup_setText {w w' : Widget} {r : RichTextSpec} {t : String}
    {log : Array (String × String)} (hr : w.spec.kindSpec = .richText r) (hhtml : r.html = "")
    (h : w.setText t = some (w', log)) : w'.markup = some (Markup.document w'.currentText) :=
  markup_of_html_empty ((setText_spec h).symm ▸ hr) hhtml

/-- **Setting a block's text to its own markup keeps the markup** when no subscriber to its text
sets the text again on being told that markup. -/
theorem markup_setText_quiet {w : Widget} {r : RichTextSpec} {m : String}
    (hr : w.spec.kindSpec = .richText r) (hhtml : r.html = "") (hm : w.markup = some m)
    (hq : ∀ sub ∈ w.text.subscribers, sub.Quiet m) :
    ∃ w' log, w.setText m = some (w', log) ∧ w'.currentText = m ∧ w'.markup = w.markup := by
  obtain ⟨run, hrun, hv⟩ := Signal.set_quiet w.text m hq
  have hset : w.setText m = some ({ w with text := run.signal }, run.log) := by
    simp [setText, hrun]
  refine ⟨_, _, hset, hv, ?_⟩
  rw [markup_setText hr hhtml hset, hm, currentText, hv]
  rw [markup_of_html_empty hr hhtml, Option.some.injEq] at hm
  rw [← hm, Markup.document_document]

end Widget

/-- **The markup of a rich text block.** Every widget shows the document of its source if it is
a rich text block, the configured markup when there is some and its current text otherwise, and
nothing if it is of another kind. A source that is some white space and then `<html` in any
ASCII case is its own document; any other is wrapped in `<html><body>` and `</body></html>`.
Wrapping is idempotent, so after a block without configured markup has its text set to its own
markup it shows the document of the text the change leaves, which is that markup, unchanged,
whenever no subscriber to the text changes it again on being told it. -/
theorem markup_wraps_source :
    (∀ w : Widget, (∃ r, w.spec.kindSpec = .richText r ∧
        w.markup = some (Markup.document (if r.html.isEmpty then w.currentText else r.html))) ∨
      ((∀ r, w.spec.kindSpec ≠ .richText r) ∧ w.markup = none)) ∧
    (∀ t, (Markup.OpensDocument t → Markup.document t = t) ∧
      (¬ Markup.OpensDocument t → Markup.document t = "<html><body>" ++ t ++ "</body></html>")) ∧
    (∀ t, Markup.document (Markup.document t) = Markup.document t) ∧
    (∀ (w : Widget) (r : RichTextSpec) (m : String), w.spec.kindSpec = .richText r →
      r.html = "" → w.markup = some m →
      (∀ w' log, w.setText m = some (w', log) → w'.markup = some (Markup.document w'.currentText)) ∧
      ((∀ sub ∈ w.text.subscribers, sub.Quiet m) →
        ∃ w' log, w.setText m = some (w', log) ∧ w'.currentText = m ∧ w'.markup = w.markup)) :=
  ⟨Widget.markup_cases, fun _ => ⟨Markup.document_of_opens, Markup.document_of_not_opens⟩,
    Markup.document_document, fun _ _ _ hr hhtml hm =>
      ⟨fun _ _ h => Widget.markup_setText hr hhtml h, Widget.markup_setText_quiet hr hhtml hm⟩⟩

/-- **A subscriber that sets the text again changes the markup.** A block whose text is `a`, with
a subscriber that appends `+` to any text shorter than 28 characters, has its text set to its own
markup: the subscriber appends `+` to it, and the block then shows that longer text. -/
theorem setText_own_markup_rewritten :
    ((Widget.ofSpec 1 ⟨{ text := "a" }, .richText {}⟩).onTextChange
        ⟨"s", fun t => if t.length < 28 then [.set (t ++ "+")] else []⟩).markup =
      some "<html><body>a</body></html>" ∧
    ∃ w' log, ((Widget.ofSpec 1 ⟨{ text := "a" }, .richText {}⟩).onTextChange
        ⟨"s", fun t => if t.length < 28 then [.set (t ++ "+")] else []⟩).setText
        "<html><body>a</body></html>" = some (w', log) ∧
      w'.markup = some "<html><body>a</body></html>+" :=
  ⟨by decide, _, _, rfl, by decide⟩

end Sidebar
