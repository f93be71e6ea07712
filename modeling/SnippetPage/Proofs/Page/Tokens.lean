import SnippetPage.Proofs.Page.History

/-!
# The tokens of comparisons

Comparisons carry consecutive tokens, and the session holds that of the latest one. Tokens start
again at zero after the greatest one, so two comparisons carry the same token only when they are at
least `UInt64.size` apart.
-/

namespace SnippetPage

theorem add_ofNat_ne {token : UInt64} {n m : Nat} (less : n < m) (near : m < n + UInt64.size) :
    token + .ofNat n ≠ token + .ofNat m := by
  intro same
  have values := congrArg UInt64.toNat (UInt64.add_right_inj token |>.mp same)
  rw [UInt64.toNat_ofNat', UInt64.toNat_ofNat'] at values
  have size : UInt64.size = 18446744073709551616 := rfl
  omega

theorem Session.nextToken_eq {s : Session} {token : UInt64} {n : Nat}
    (current : s.compareToken = token + .ofNat n) : s.nextToken = token + .ofNat (n + 1) := by
  rw [nextToken, current, UInt64.add_assoc, UInt64.ofNat_add]
  rfl

/-- Calls that carry the tokens after a first one in order, the latest call first. -/
def Counted (token : UInt64) : List OpenCall → Prop
  | [] => True
  | k :: earlier =>
    k.call.token? = some (token + .ofNat (earlier.length + 1)) ∧ Counted token earlier

theorem Counted.token?_eq {token : UInt64} {ks : List OpenCall} (counted : Counted token ks)
    {k : OpenCall} (member : k ∈ ks) :
    ∃ n, 0 < n ∧ n ≤ ks.length ∧ k.call.token? = some (token + .ofNat n) := by
  induction ks with
  | nil => cases member
  | cons latest earlier ih =>
    rcases List.mem_cons.mp member with rfl | older
    · exact ⟨earlier.length + 1, Nat.succ_pos _, Nat.le_refl _, counted.1⟩
    · obtain ⟨n, positive, bound, carried⟩ := ih counted.2 older
      exact ⟨n, positive, Nat.le_succ_of_le bound, carried⟩

theorem Counted.token?_reverse {token : UInt64} {ks : List OpenCall} (counted : Counted token ks)
    {n : Nat} {k : OpenCall} (nth : ks.reverse[n]? = some k) :
    k.call.token? = some (token + .ofNat (n + 1)) := by
  induction ks with
  | nil => cases nth
  | cons latest earlier ih =>
    rw [List.reverse_cons] at nth
    rcases Nat.lt_trichotomy n earlier.length with before | rfl | after
    · rw [List.getElem?_append_left (by simpa using before)] at nth
      exact ih counted.2 nth
    · rw [List.getElem?_append_right (by simp)] at nth
      simp only [List.length_reverse, Nat.sub_self, List.getElem?_cons_zero,
        Option.some.injEq] at nth
      rw [← nth]
      exact counted.1
    · rw [List.getElem?_eq_none (by simp; omega)] at nth
      cases nth

namespace History
variable {setting : RequestSetting} {first : PageState} {past : History} {answers : List Arrival}
  {action : Action} {source : Option OpenCall} {token : UInt64} {k : OpenCall}

def comparisons (past : History) : List OpenCall :=
  past.calls.filter (·.call.token?.isSome)

theorem comparisons_cons (t : Turn) (earlier : History) : comparisons (t :: earlier) =
    t.started.filter (·.call.token?.isSome) ++ earlier.comparisons :=
  List.filter_append ..

theorem length_comparisons_rest {later : History} :
    past.comparisons.length ≤ (later ++ past).comparisons.length := by
  rw [comparisons, comparisons, calls, calls, List.flatMap_append, List.filter_append,
    List.length_append]
  omega

/-- The comparisons of a history carry the tokens after the first one, and the session holds the
token of the latest. -/
theorem counted (follows : past.Always (Turn.Follows setting first)) :
    Counted first.session.compareToken past.comparisons ∧
      (past.state first).session.compareToken =
        first.session.compareToken + .ofNat past.comparisons.length := by
  induction past with
  | nil => exact ⟨trivial, (UInt64.add_zero _).symm⟩
  | cons t earlier ih =>
    obtain ⟨follow, follows⟩ := follows
    obtain ⟨counted, current⟩ := ih follows
    rw [← follow.before] at current
    have after : (History.state first (t :: earlier)).session.compareToken =
        (t.before.after setting t.action).session.compareToken := by rw [← follow.after]; rfl
    rw [comparisons_cons, after]
    rcases (t.before.moves setting t.action).compared with ⟨call, calls, next, held⟩ | ⟨none, held⟩
    · have number := Session.nextToken_eq current
      rw [follow.started, calls, numbered, numbered, List.filter_cons_of_pos (by simp [next])]
      exact ⟨⟨next.trans (congrArg some number), counted⟩, held.trans number⟩
    · have silent : t.started.filter (·.call.token?.isSome) = [] := by
        apply List.filter_eq_nil_iff.mpr
        intro k started
        simp [none _ (follow.mem_started started)]
      rw [silent]
      exact ⟨counted, held.trans current⟩

/-- No comparison but the latest carries the token of the session. -/
theorem latest_of_token? (follows : past.Always (Turn.Follows setting first))
    (few : past.comparisons.length < UInt64.size) (member : k ∈ past.comparisons)
    (carried : k.call.token? = some (past.state first).session.compareToken) :
    past.comparisons.head? = some k := by
  obtain ⟨counted, current⟩ := counted follows
  cases started : past.comparisons with
  | nil => rw [started] at member; cases member
  | cons latest earlier =>
    rw [started] at counted current few member
    rcases List.mem_cons.mp member with rfl | older
    · rfl
    · obtain ⟨n, positive, bound, same⟩ := counted.2.token?_eq older
      rw [current, same] at carried
      rw [List.length_cons] at carried few
      exact absurd (Option.some.inj carried) (add_ofNat_ne (by omega) (by omega))

theorem token?_ne_next (follows : past.Always (Turn.Follows setting first))
    (few : past.comparisons.length < UInt64.size) (member : k ∈ past.comparisons) :
    k.call.token? ≠ some (past.state first).session.nextToken := by
  obtain ⟨counted, current⟩ := counted follows
  obtain ⟨n, positive, bound, carried⟩ := counted.token?_eq member
  rw [carried, Session.nextToken_eq current]
  intro same
  exact absurd (Option.some.inj same) (add_ofNat_ne (by omega) (by omega))

/-- The result of a comparison goes back to the comparison that carries its token. -/
theorem Result.comparison (result : past.Result setting answers action source)
    (carried : action.token? = some token) :
    ∃ k ∈ past.comparisons, source = some k ∧ k.call.token? = some token := by
  have started : ∀ a : Arrival, a.call ∈ past.calls → a.action.token? = some token →
      ∃ k ∈ past.comparisons, some a.call = some k ∧ k.call.token? = some token := by
    intro a member answer
    rw [Arrival.action, Call.token?_result] at answer
    exact ⟨a.call, List.mem_filter.mpr ⟨member, by rw [answer]; rfl⟩, rfl, answer⟩
  cases result with
  | answer a _ member => exact started a member carried
  | rendering a t _ _ _ member _ _ _ answer =>
    refine started a member ?_
    rw [answer]
    exact carried

end History

end SnippetPage
