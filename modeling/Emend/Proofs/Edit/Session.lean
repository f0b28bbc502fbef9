import Emend.Proofs.Edit.Tracking

/-!
# Sessions of edits

A session is a series of calls on one tracked accumulator, some of which may be refused.  It behaves
like the same series of edits made on a plain text, one after the other.

## What is here

* `EditCall` is a call, and `EditCall.step` makes it.  `EditCall.perform` is what it leads to if it
  is accepted, and `DocumentEdits.attempt` is the accumulator after it, whether it was refused or
  not.
* `DocumentEdits.attempt_of_error`: a refused call leaves the accumulator as it was.  This is not a
  matter of types, since a step leaves a state when it is refused, too; it holds because a step
  makes all its checks before it writes anything (`EditCall.atomic_step`).
* `EditCall.edited` is the same call on a text, which does nothing where the call does not fit.
* `DocumentEdits.Follows` relates an accumulator to the text that it has been edited to.  Each call
  keeps it (`Follows.attempt`), and so does a session, by induction on the calls
  (`Follows.attemptAll`).
* `DocumentEdits.apply_session` says that the accumulator renders to the text after any series of
  calls, and `DocumentEdits.session_call` when the next call is accepted and what it then does.
-/

set_option autoImplicit false

namespace Emend

open Text

/-- A call that changes an accumulator. -/
inductive EditCall where
  | replace (start stop : Nat) (text : Text)
  | insert (offset : Nat) (text : Text)
  | delete (start stop : Nat)
  | push (e : OffsetEdit)
  deriving DecidableEq, Repr

namespace EditCall

/-- Makes the call. -/
def step : EditCall → Step EditError DocumentEdits Unit
  | replace start stop text => DocumentEdits.replaceStep start stop text
  | insert offset text => DocumentEdits.insertStep offset text
  | delete start stop => DocumentEdits.deleteStep start stop
  | push e => DocumentEdits.pushStep e

/-- The accumulator that the call leads to. -/
def perform (d : DocumentEdits) (c : EditCall) : Except EditError DocumentEdits := c.step.result d

/-- The edit that a call asks for. -/
def edit : EditCall → OffsetEdit
  | replace start stop text => ⟨start, stop, text⟩
  | insert offset text => ⟨offset, offset, text⟩
  | delete start stop => ⟨start, stop, []⟩
  | push e => e

/-- All calls are forms of `replace`. -/
theorem perform_eq (d : DocumentEdits) (c : EditCall) :
    c.perform d = d.replace c.edit.start c.edit.stop c.edit.text := by
  cases c <;> rfl

theorem atomic_step (c : EditCall) : c.step.Atomic := by
  cases c <;> exact DocumentEdits.atomic_replaceStep _ _ _

end EditCall

/-- An edit fits a text: it stays within the text, and it changes nothing or cuts no character. -/
def OffsetEdit.Fits (t : Text) (e : OffsetEdit) : Prop :=
  e.start ≤ e.stop ∧ e.stop ≤ byteLen t ∧
    (e.start = e.stop ∧ e.text = [] ∨ isBoundary t e.start = true ∧ isBoundary t e.stop = true)

instance (t : Text) (e : OffsetEdit) : Decidable (e.Fits t) :=
  inferInstanceAs (Decidable (_ ∧ _ ∧ _))

/-- A text after an edit, which does nothing where it does not fit. -/
def EditCall.edited (t : Text) (c : EditCall) : Text :=
  if c.edit.Fits t then replaceBetween t c.edit.start c.edit.stop c.edit.text else t

namespace DocumentEdits

variable {d d' : DocumentEdits} {t : Text}

/-- The accumulator after a call, refused or not. -/
def attempt (d : DocumentEdits) (c : EditCall) : DocumentEdits := c.step.after d

/-- A refused call leaves the accumulator as it was. -/
theorem attempt_of_error {c : EditCall} {e : EditError} (h : c.perform d = .error e) :
    d.attempt c = d := c.atomic_step.after_of_error h

theorem attempt_eq (d : DocumentEdits) (c : EditCall) :
    d.attempt c = match c.perform d with
      | .ok d' => d'
      | .error _ => d := by
  cases h : c.perform d with
  | ok d' => exact Step.after_of_result h
  | error e => exact attempt_of_error h

/-- The tracked accumulator after a series of calls. -/
def session (document : Snapshot) (calls : List EditCall) : DocumentEdits :=
  calls.foldl attempt (new document true)

/-- **What a tracked accumulator keeps true**: its store writes the edited text, and it knows the
length of that. -/
structure Follows (d : DocumentEdits) (t : Text) : Prop where
  tracked : d.tracked = true
  store : OffsetEdit.Tracked d.document.content d.edits t
  currentLen : d.currentLen = byteLen t

namespace Follows

theorem new (document : Snapshot) : (new document true).Follows document.content :=
  ⟨rfl, ⟨rfl, .nil, by simp [DocumentEdits.new]⟩, rfl⟩

theorem apply (h : d.Follows t) : d.apply = .ok t :=
  apply_of_writes h.store.writes

/-- A tracked edit that does something is accepted exactly between boundaries of the edited text. -/
theorem replaceTracked (h : d.Follows t) {start stop : Nat} {text : Text} (hle : start ≤ stop)
    (hstop : stop ≤ byteLen t) (hne : ¬ (start = stop ∧ text = [])) :
    SucceedsIff (OnBoundaries t start stop) (d.replaceTracked start stop text)
      fun d' ↦ d'.Follows (replaceBetween t start stop text) := by
  have hlen : ¬ d.currentLen < stop := by
    rw [h.currentLen]
    omega
  have hr := h.store.rebase text hle hstop hne
  rw [DocumentEdits.replaceTracked_eq, if_neg hlen, if_neg hne]
  cases hes : OffsetEdit.rebase d.document.content d.edits start stop text with
  | ok es' =>
    have hb := hr.1.1 ⟨es', hes⟩
    refine .of_ok hb rfl ⟨h.tracked, hr.2 es' hes, ?_⟩
    rw [h.currentLen, byteLen_replaceBetween hle hb.1 hb.2]
  | error e => exact .of_error (hr.not_of_error hes) rfl

/-- **One call.**  It is accepted exactly when its edit fits the edited text. -/
theorem replace (h : d.Follows t) (e : OffsetEdit) :
    SucceedsIff (e.Fits t) (d.replace e.start e.stop e.text)
      fun d' ↦ d'.Follows (replaceBetween t e.start e.stop e.text) := by
  rw [DocumentEdits.replace_eq, h.tracked, if_pos rfl]
  by_cases hle : e.start ≤ e.stop
  · rw [if_neg (by omega)]
    by_cases hstop : e.stop ≤ byteLen t
    · by_cases hnoop : e.start = e.stop ∧ e.text = []
      · -- nothing is replaced by nothing: the accumulator stays as it is
        have hok : d.replaceTracked e.start e.stop e.text = .ok d := by
          rw [DocumentEdits.replaceTracked_eq, if_neg (by rw [h.currentLen]; omega), if_pos hnoop]
        refine .of_ok ⟨hle, hstop, .inl hnoop⟩ (congrArg EditError.ofText hok) ?_
        rw [← hnoop.1, hnoop.2, replaceBetween_self_nil]
        exact h
      · have hr := h.replaceTracked hle hstop hnoop
        cases hd : d.replaceTracked e.start e.stop e.text with
        | ok d' => exact .of_ok ⟨hle, hstop, .inr (hr.1.1 ⟨d', hd⟩)⟩ rfl (hr.2 d' hd)
        | error _ =>
          refine .of_error (fun hfits ↦ ?_) rfl
          rcases hfits.2.2 with hnoop' | hb
          · exact hnoop hnoop'
          · exact hr.not_of_error hd hb
    · have herr : d.replaceTracked e.start e.stop e.text
          = .error (.offsetOutOfRange e.stop d.currentLen) := by
        rw [DocumentEdits.replaceTracked_eq, if_pos (by rw [h.currentLen]; omega)]
      exact .of_error (fun hfits ↦ hstop hfits.2.1) (congrArg EditError.ofText herr)
  · rw [if_pos (by omega)]
    exact .of_error (fun hfits ↦ hle hfits.1) rfl

/-- After a call, refused or not, the accumulator follows the text after the call. -/
theorem attempt (h : d.Follows t) (c : EditCall) : (d.attempt c).Follows (c.edited t) := by
  have hr := h.replace c.edit
  rw [← c.perform_eq] at hr
  rw [DocumentEdits.attempt_eq, EditCall.edited]
  cases hd : c.perform d with
  | ok d' =>
    rw [if_pos (hr.1.1 ⟨d', hd⟩)]
    exact hr.2 d' hd
  | error e =>
    rw [if_neg (hr.not_of_error hd)]
    exact h

theorem attemptAll (h : d.Follows t) (calls : List EditCall) :
    (calls.foldl DocumentEdits.attempt d).Follows (calls.foldl EditCall.edited t) := by
  induction calls generalizing d t with
  | nil => exact h
  | cons c calls ih => exact ih (h.attempt c)

end Follows

/-- A tracked accumulator follows the text that its calls make. -/
theorem follows_session (document : Snapshot) (calls : List EditCall) :
    (session document calls).Follows (calls.foldl EditCall.edited document.content) :=
  (Follows.new document).attemptAll calls

/-- **A tracked accumulator simulates editing a text call by call.** -/
theorem apply_session (document : Snapshot) (calls : List EditCall) :
    (session document calls).apply = .ok (calls.foldl EditCall.edited document.content) :=
  (follows_session document calls).apply

/-- **The next call of a session.**  With `t` the edited text so far, the call is accepted exactly
when it stays within `t` and changes nothing or cuts no character of `t`.  If it is accepted, the
edited text is `t` with the edit carried out.  If not, the accumulator is as it was. -/
theorem session_call (document : Snapshot) (calls : List EditCall) :
    ∃ t, (session document calls).apply = .ok t ∧ ∀ c : EditCall,
      ((∃ d', c.perform (session document calls) = .ok d') ↔
        c.edit.start ≤ c.edit.stop ∧ c.edit.stop ≤ byteLen t ∧
          (c.edit.start = c.edit.stop ∧ c.edit.text = [] ∨
            isBoundary t c.edit.start = true ∧ isBoundary t c.edit.stop = true)) ∧
      (∀ d', c.perform (session document calls) = .ok d' →
        d'.apply = .ok (takeBytes c.edit.start t ++ c.edit.text ++ dropBytes c.edit.stop t)) ∧
      ∀ e, c.perform (session document calls) = .error e →
        (session document calls).attempt c = session document calls := by
  have h := follows_session document calls
  refine ⟨_, h.apply, fun c ↦ ?_⟩
  obtain ⟨hiff, hok⟩ := h.replace c.edit
  rw [← c.perform_eq] at hiff hok
  refine ⟨hiff, fun d' hd' ↦ ?_, fun e he ↦ attempt_of_error he⟩
  rw [(hok d' hd').apply, replaceBetween, List.append_assoc]

end DocumentEdits

end Emend
