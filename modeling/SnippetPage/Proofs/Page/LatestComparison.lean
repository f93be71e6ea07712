import SnippetPage.Proofs.Page.Tokens

/-!
# The latest comparison wins

Answers to comparisons arrive in any order, and each is looked at twice: when it arrives and when
its rendering does. Only those to the latest comparison have an effect, so that a panel on the
screen always renders the answer to the comparison that was the latest when the panel got there.
-/

namespace SnippetPage

/-! ### The panel on the screen -/

namespace Mode

theorem panel?_onLoaded (m : Mode) : m.onLoaded.panel? = m.panel? := by
  cases m <;> rfl

theorem panel?_leaveEdit (m : Mode) :
    (m.orStay (m.leaveEdit.map Prod.snd)).panel? = m.panel? := by
  cases m <;> rfl

theorem panel?_editField (m : Mode) (field : EditField) (value : String) :
    (m.editField field value).panel? = m.panel? := by
  cases m <;> rfl

theorem panel?_exitDiff (m : Mode) : (m.orStay m.exitDiff).panel? = none := by
  cases m <;> rfl

theorem panel?_enterDiff {m : Mode} {p q : DiffPanel}
    (shown : (m.orStay (m.enterDiff p)).panel? = some q) : q = p := by
  cases m with
  | readOnly | diff _ => exact (Option.some.inj shown).symm
  | loading | edit _ => cases shown

theorem panel?_scrolled {m : Mode} {pane : Pane} {offset : Offset} {p : DiffPanel}
    (shown : (m.scrolled pane offset).panel? = some p) :
    ∃ q, m.panel? = some q ∧ p = q.scrolled pane offset := by
  cases m with
  | diff q => exact ⟨q, rfl, (Option.some.inj shown).symm⟩
  | _ => cases shown

theorem panel?_enterEdit (m : Mode) (snippet : Snippet) :
    (m.orStay (m.enterEdit snippet)).panel? = m.panel? := by
  cases m <;> rfl

end Mode

/-- Two panels show the same comparison, scrolled or not. -/
def DiffPanel.SameContent (p q : DiffPanel) : Prop :=
  p.comparison = q.comparison ∧ p.rendered = q.rendered

namespace PageState
variable {s : PageState} {action : Action} {p : DiffPanel} {setting : RequestSetting}

theorem panel?_reduce (unrendered : ∀ token panel, action ≠ .compareRendered token panel)
    (unscrolled : ∀ pane offset, action ≠ .scrolled pane offset)
    (shown : (s.reduce action).mode.panel? = some p) : s.mode.panel? = some p := by
  rw [mode_reduce] at shown
  cases action with
  | compareRendered token panel => exact absurd rfl (unrendered token panel)
  | scrolled pane offset => exact absurd rfl (unscrolled pane offset)
  | loaded snippet => exact (Mode.panel?_onLoaded s.mode).symm.trans shown
  | saved | cancelEdit => exact (Mode.panel?_leaveEdit s.mode).symm.trans shown
  | edit field value => exact (Mode.panel?_editField s.mode field value).symm.trans shown
  | enterEdit =>
    simp only [Mode.reduce] at shown
    split at shown
    · exact (Mode.panel?_enterEdit s.mode _).symm.trans shown
    · exact shown
  | exitDiff => exact absurd ((Mode.panel?_exitDiff s.mode).symm.trans shown) (by simp)
  | _ => exact shown

/-- A panel on the screen was there before, or is the rendering that was waited for. -/
theorem panel_after (shown : (s.after setting action).mode.panel? = some p) :
    (∃ q, s.mode.panel? = some q ∧ q.SameContent p ∧
      ∀ token panel, action = .compareRendered token panel → s.after setting action = s) ∨
    ∃ token, action = .compareRendered token p ∧ s.session.isCurrent token = true := by
  cases forward : (s.handling setting action).forward with
  | false =>
    have held : s.after setting action = s := after_held forward
    rw [held] at shown
    exact Or.inl ⟨p, shown, ⟨rfl, rfl⟩, fun _ _ _ => held⟩
  | true =>
    rw [after_forwarded forward] at shown ⊢
    by_cases rendered : ∃ token panel, action = .compareRendered token panel
    · obtain ⟨token, panel, rfl⟩ := rendered
      by_cases current : s.session.isCurrent token = true
      · simp only [reduce, afterRendered, if_pos current] at shown
        obtain rfl := Mode.panel?_enterDiff shown
        exact Or.inr ⟨token, rfl, current⟩
      · have same : s.reduce (.compareRendered token panel) = s := if_neg current
        rw [same] at shown ⊢
        exact Or.inl ⟨p, shown, ⟨rfl, rfl⟩, fun _ _ _ => rfl⟩
    · have unrendered : ∀ token panel, action ≠ .compareRendered token panel :=
        fun token panel same => rendered ⟨token, panel, same⟩
      by_cases scrolled : ∃ pane offset, action = .scrolled pane offset
      · obtain ⟨pane, offset, rfl⟩ := scrolled
        rw [mode_reduce] at shown
        obtain ⟨q, before, rfl⟩ := Mode.panel?_scrolled shown
        exact Or.inl ⟨q, before, ⟨rfl, rfl⟩,
          fun token panel taken => absurd taken (unrendered token panel)⟩
      · have before := panel?_reduce unrendered
          (fun pane offset same => scrolled ⟨pane, offset, same⟩) shown
        exact Or.inl ⟨p, before, ⟨rfl, rfl⟩,
          fun token panel taken => absurd taken (unrendered token panel)⟩

end PageState

namespace History
variable {setting : RequestSetting} {past : History} {answers : List Arrival}
  {source : Option OpenCall} {token : UInt64} {panel : DiffPanel}

/-- A panel that renders the answer to the latest comparison of a history: the answer arrived, was
taken in a turn, and is rendered in the language of the snippet at that turn. -/
def RendersLatest (setting : RequestSetting) (past : History) (answers : List Arrival)
    (source : Option OpenCall) (p : DiffPanel) : Prop :=
  ∃ k a taken token comparison, past.comparisons.head? = some k ∧ source = some k ∧
    a ∈ answers ∧ a.call = k ∧ a.action = .compareLoaded token comparison ∧
    taken ∈ past ∧ taken.source = some k ∧ taken.action = a.action ∧
    p = taken.before.session.panel setting comparison

theorem result_ne_rendered (c : Call) (answer : Except ServiceError c.Answer) :
    .compareRendered token panel ≠ c.result answer := by
  cases c <;> cases answer <;> simp [Call.result]

theorem Result.rendered
    (result : past.Result setting answers (.compareRendered token panel) source) :
    ∃ a taken comparison, source = some a.call ∧ a ∈ answers ∧ taken ∈ past ∧
      taken.source = some a.call ∧ taken.action = a.action ∧
      a.action = .compareLoaded token comparison ∧
      panel = taken.before.session.panel setting comparison := by
  generalize same : Action.compareRendered token panel = action at result
  cases result with
  | answer a arrived started =>
    exact absurd same (result_ne_rendered a.call.call a.response)
  | rendering a taken token' comparison arrived started member goes same' answer =>
    obtain ⟨rfl, rfl⟩ := Action.compareRendered.inj same
    exact ⟨a, taken, comparison, rfl, arrived, member, goes, same', answer, rfl⟩

end History

namespace Course
variable {c : Course} {moves : List Move} {later earlier : History} {t : Turn} {config : Config}
  {highlighter : Option (Highlighter Id)} {token : UInt64}

/-- Along every run, whatever token comparisons are counted from, the result of a comparison goes
back to the comparison, and nothing comes of it unless that is the latest. A panel on the screen was
there before or renders the answer to the comparison that is the latest now. -/
theorem latest_comparison_wins (run : (start config highlighter token).run moves = some c)
    (few : c.past.comparisons.length < UInt64.size) (split : c.past = later ++ t :: earlier) :
    (∀ carried, t.action.token? = some carried →
      ∃ k ∈ earlier.comparisons, t.source = some k ∧ k.call.token? = some carried ∧
        (earlier.comparisons.head? ≠ some k →
          t.after = t.before ∧ t.queued = [] ∧ t.started = [])) ∧
    ∀ p, t.after.mode.panel? = some p →
      (∃ q, t.before.mode.panel? = some q ∧ q.SameContent p ∧
        ∀ carried panel, t.action = .compareRendered carried panel → t.after = t.before) ∨
      earlier.RendersLatest (config.requestSetting highlighter) c.answers t.source p := by
  have traced := traced_run run
  obtain ⟨follow, follows⟩ := (split ▸ traced.follows).rest
  obtain ⟨result, -⟩ := (split ▸ traced.results).rest
  have fewer : earlier.comparisons.length < UInt64.size := by
    refine Nat.lt_of_le_of_lt ?_ few
    rw [split, List.append_cons]
    exact History.length_comparisons_rest
  constructor
  · intro carried same
    obtain ⟨k, member, goes, tokened⟩ :=
      (result (by simp [Action.resultOf_eq_compare same])).comparison same
    refine ⟨k, member, goes, tokened, fun outdated => ?_⟩
    have old : t.before.session.isCurrent carried = false := by
      apply eq_false_of_ne_true
      intro current
      obtain ⟨-, rfl⟩ := Session.isCurrent_iff.mp current
      rw [follow.before] at tokened
      exact outdated (History.latest_of_token? follows fewer member tokened)
    obtain ⟨after, queued, calls⟩ := PageState.stale_unchanged _ same old
    exact ⟨follow.after.trans after, follow.queued.trans queued, by rw [follow.started, calls]; rfl⟩
  · intro p shown
    rw [follow.after] at shown
    rcases PageState.panel_after shown with ⟨q, before, same, kept⟩ | ⟨carried, taken, current⟩
    · exact Or.inl ⟨q, before, same,
        fun carried panel rendered => follow.after.trans (kept carried panel rendered)⟩
    · right
      rw [taken] at result
      have result := result (by simp [Action.resultOf])
      obtain ⟨-, rfl⟩ := Session.isCurrent_iff.mp current
      obtain ⟨k, member, goes, tokened⟩ := result.comparison rfl
      obtain ⟨a, answered, comparison, from_call, arrived, turned, back, same, answer, rendered⟩ :=
        result.rendered
      obtain rfl : k = a.call := Option.some.inj (goes.symm.trans from_call)
      rw [follow.before] at tokened
      have latest := History.latest_of_token? follows fewer member tokened
      exact ⟨_, a, answered, _, comparison, latest, goes, arrived, rfl, answer, turned, back, same,
        rendered⟩

def comparingTwice : List Move :=
  Move.opening (.named 1 "a") ++
    [.operate (.enterDiff 2), .rest, .operate (.enterDiff 3), .rest,
      .arrive ⟨⟨1, .compare 1 2 0⟩, .ok ⟨⟨"a", []⟩, ⟨"b", []⟩⟩⟩, .next]

/-- The first of two comparisons is dropped, also where tokens start again at zero. -/
theorem first_comparison_loses : ∃ c t earlier,
    (start {} none 0xFFFFFFFFFFFFFFFF).run comparingTwice = some c ∧ c.past = t :: earlier ∧
      t.action.token? = some 0 ∧ t.after = t.before ∧ t.queued = [] := by
  have run : (start {} none 0xFFFFFFFFFFFFFFFF).run comparingTwice = some _ := rfl
  obtain ⟨k, _, goes, _, dropped⟩ :=
    (latest_comparison_wins run (by decide) (show _ = [] ++ _ :: _ from rfl)).1 0 rfl
  obtain rfl := Option.some.inj goes
  obtain ⟨same, none, _⟩ := dropped (by decide)
  exact ⟨_, _, _, run, rfl, rfl, same, none⟩

end Course

end SnippetPage
