import SnippetPage.Proofs.Page.Form

/-!
# Where a save goes

A save sends the texts of the form to the snippet of record. That is the snippet whose form was
opened, unless another one was loaded since: a load leaves the open form alone.
-/

namespace SnippetPage

/-- A turn opens the form: one is open after it that was not open before. -/
def Turn.opensForm (t : Turn) : Bool :=
  match t.action with
  | .enterEdit => t.before.mode.buffer?.isNone && t.after.mode.buffer?.isSome
  | _ => false

/-- An answer is about the snippet that was asked for. -/
def Arrival.Truthful (a : Arrival) : Prop :=
  match a.call.call, a.action with
  | .fetch id, .loaded snippet => snippet.id = id
  | .update id _, .saved snippet => snippet.id = id
  | _, _ => True

namespace History
variable {setting : RequestSetting} {first : PageState} {past earlier : History} {t : Turn}
  {b : EditBuffer}

/-- The snippet whose form was opened last. -/
def seed : History → Option Snippet
  | [] => none
  | t :: earlier => if t.opensForm then t.before.session.snippet else seed earlier

/-- The snippet that was loaded last since the form was opened. -/
def reload : History → Option Snippet
  | [] => none
  | t :: earlier =>
    if t.opensForm then none
    else
      match t.action with
      | .loaded snippet => some snippet
      | _ => reload earlier

theorem opensForm_of_kept (kept : t.after.mode.buffer? = t.before.mode.buffer?) :
    t.opensForm = false := by
  unfold Turn.opensForm
  split
  · rw [kept]
    cases t.before.mode.buffer? <;> rfl
  · rfl

theorem reload_of_unloaded (closed : t.opensForm = false)
    (unloaded : ∀ snippet, t.action ≠ .loaded snippet) :
    reload (t :: earlier) = earlier.reload := by
  rw [reload, closed]
  cases action : t.action with
  | loaded snippet => exact absurd action (unloaded snippet)
  | _ => rfl

/-- While the form is open, the snippet on record is the one that was loaded last since, or else
the one whose form it is. -/
theorem record_of_form (closed : first.mode.buffer? = none)
    (follows : past.Always (Turn.Follows setting first))
    (running : (past.state first).session.ended = false)
    (opened : (past.state first).mode.buffer? = some b) :
    ∃ snippet, past.seed = some snippet ∧
      (past.state first).session.snippet = some (past.reload.getD snippet) := by
  -- Only a load changes the record while the form is open, and only opening starts a new count.
  induction past generalizing b with
  | nil =>
    rw [state, closed] at opened
    cases opened
  | cons t earlier ih =>
    obtain ⟨follow, follows⟩ := follows
    have before := follow.running_before running
    have step := PageState.form_step setting before t.action
    rw [← follow.after] at step
    rw [state] at running opened ⊢
    rw [← follow.before] at ih
    cases step with
    | opens snippet enters record none buffer same =>
      have opens : t.opensForm = true := by simp [Turn.opensForm, enters, none, buffer]
      rw [seed, reload, if_pos opens, if_pos opens]
      exact ⟨snippet, record, same.trans record⟩
    | edits field value b' typed was buffer same =>
      have kept : t.opensForm = false := by simp [Turn.opensForm, typed]
      obtain ⟨snippet, seeded, record⟩ := ih follows before was
      rw [seed, kept, reload_of_unloaded kept (by simp [typed])]
      exact ⟨snippet, seeded, same.trans record⟩
    | loads snippet loaded buffer record =>
      have kept := opensForm_of_kept buffer
      rw [buffer] at opened
      obtain ⟨snippet', seeded, -⟩ := ih follows before opened
      rw [seed, reload, kept, loaded]
      exact ⟨snippet', seeded, record⟩
    | closes none =>
      rw [none] at opened
      cases opened
    | keeps untyped unloaded buffer same =>
      have kept := opensForm_of_kept buffer
      rw [buffer] at opened
      obtain ⟨snippet, seeded, record⟩ := ih follows before opened
      rw [seed, kept, reload_of_unloaded kept unloaded]
      exact ⟨snippet, seeded, same.trans record⟩

end History

namespace Course
variable {c : Course} {moves : List Move} {later earlier : History} {t : Turn} {k : OpenCall}
  {id : SnippetId} {u : SnippetUpdate} {config : Config} {highlighter : Option (Highlighter Id)}
  {token : UInt64}

/-- Along every run, an update that is sent is that of the open form, and it goes to the snippet
that was loaded last since the form was opened, or else to the one whose form it is. So it goes to
the latter exactly when no other snippet was loaded in between. -/
theorem save_goes_to_record (run : (start config highlighter token).run moves = some c)
    (split : c.past = later ++ t :: earlier) (started : k ∈ t.started)
    (sends : k.call = .update id u) :
    ∃ snippet b, t.action = .save ∧ earlier.seed = some snippet ∧
      t.before.mode.buffer? = some b ∧ b.validate = .ok u ∧
      id = (earlier.reload.getD snippet).id ∧
      (id = snippet.id ↔ ∀ other, earlier.reload = some other → other.id = snippet.id) := by
  have traced := traced_run run
  obtain ⟨follow, follows⟩ := (split ▸ traced.follows).rest
  have sent := follow.mem_started started
  rw [sends] at sent
  obtain ⟨record, b, saves, running, held, opened, valid, same⟩ := PageState.update_sent sent
  have running' := running
  have opened' := opened
  rw [follow.before] at running' opened' held
  obtain ⟨snippet, seeded, onRecord⟩ := History.record_of_form rfl follows running' opened'
  have target : id = (earlier.reload.getD snippet).id := by
    rw [same, Option.some.inj (held.symm.trans onRecord)]
  refine ⟨snippet, b, saves, seeded, opened, valid, target, ?_⟩
  rw [target]
  cases earlier.reload with
  | none => simp
  | some other => simp

def reloading : List Move :=
  Move.opening (.named 1 "a") ++
    [.operate .enterEdit, .rest, .operate (.load 2), .arrive ⟨⟨1, .fetch 2⟩, .ok (.named 2 "b")⟩,
      .next, .rest, .operate .save]

theorem save_goes_to_reload : ∃ c t earlier snippet,
    (start {} none 0).run reloading = some c ∧ c.past = t :: earlier ∧
      History.seed earlier = some snippet ∧
      (2 = snippet.id ↔ ∀ other, History.reload earlier = some other → other.id = snippet.id) := by
  have run : (start {} none 0).run reloading = some _ := rfl
  obtain ⟨snippet, _, _, seeded, _, _, _, target⟩ :=
    save_goes_to_record run (show _ = [] ++ _ :: _ from rfl) List.mem_cons_self rfl
  exact ⟨_, _, _, snippet, run, rfl, seeded, target⟩

/-- The form of the first snippet is saved to the second. -/
theorem save_may_leave_snippet_of_form : ¬∀ (moves : List Move) (c : Course)
    (later earlier : History) (t : Turn) (k : OpenCall) (id : SnippetId) (u : SnippetUpdate)
    (snippet : Snippet), (start {} none 0).run moves = some c →
      (∀ a ∈ c.answers, a.Truthful) → c.past = later ++ t :: earlier → k ∈ t.started →
      k.call = .update id u → earlier.seed = some snippet → id = snippet.id := by
  intro claimed
  have same := claimed reloading _ [] _ _ ⟨2, .update 2 ⟨"a", "", "", none, []⟩⟩ 2 _ (.named 1 "a")
    rfl ?_ rfl (by decide) rfl rfl
  · exact absurd same (by decide)
  · intro a member
    rcases List.mem_cons.mp member with rfl | member
    · rfl
    · obtain rfl := List.mem_singleton.mp member
      rfl

end Course

end SnippetPage
