import Mathlib.Data.List.DropRight
import SnippetPage.Proofs.Page.Ended

/-!
# The log of notifications

A notification that is pushed makes room for itself by dropping at most one. The log started with
room for one at least and keeps its room, so it always shows the end of what was pushed since it was
cleared.
-/

namespace SnippetPage

namespace Action

def notification? : Action → Option Notification
  | notify notification => some notification
  | _ => none

def keepsLog : Action → Bool
  | clearNotifications => false
  | _ => true

/-- The notifications that were pushed after the log was last cleared. -/
def pushed (actions : List Action) : List Notification :=
  (actions.rtakeWhile keepsLog).filterMap notification?

theorem pushed_clear (actions : List Action) : pushed (actions ++ [clearNotifications]) = [] := by
  rw [pushed, List.rtakeWhile_concat_neg _ _ _ Bool.false_ne_true]
  rfl

theorem pushed_keeps {a : Action} (keeps : a.keepsLog = true) (actions : List Action) :
    pushed (actions ++ [a]) = pushed actions ++ a.notification?.toList := by
  rw [pushed, List.rtakeWhile_concat_pos _ _ _ keeps, List.filterMap_append]
  cases notified : a.notification? <;> simp [pushed, notified]

end Action

namespace NotificationLog
variable {log : NotificationLog} {room : Nat} {told : List Notification}

/-- What a log becomes with one more notification. That one comes last, and of the others only the
first is dropped, if there is no room for all. -/
structure Gains (log : NotificationLog) (n : Notification) (log' : NotificationLog) : Prop where
  limit : log'.limit = log.limit
  latest : log'.entries.getLast? = some n
  older : log'.entries.dropLast =
    if log.entries.length < log.limit then log.entries else log.entries.tail

theorem gains_push (room : 0 < log.limit) (n : Notification) : log.Gains n (log.push n) := by
  by_cases full : log.limit < log.entries.length + 1
  · have some : log.entries ≠ [] := List.ne_nil_of_length_pos (by omega)
    have pushed : (log.push n).entries = log.entries.tail ++ [n] := by
      rw [push]
      simp only [List.length_append, List.length_singleton, if_pos full, List.drop_one]
      exact List.tail_append_of_ne_nil some
    refine ⟨rfl, by rw [pushed, List.getLast?_concat], ?_⟩
    rw [pushed, List.dropLast_concat, if_neg (by omega)]
  · have pushed : (log.push n).entries = log.entries ++ [n] := by
      rw [push]
      simp only [List.length_append, List.length_singleton, if_neg full]
    refine ⟨rfl, by rw [pushed, List.getLast?_concat], ?_⟩
    rw [pushed, List.dropLast_concat, if_pos (by omega)]

/-- The log shows the end of what was pushed, as much as it has room for. -/
structure Shows (log : NotificationLog) (room : Nat) (told : List Notification) : Prop where
  limit : log.limit = room
  entries : log.entries = told.drop (told.length - room)

theorem shows_ofLimit (limit : Nat) : (ofLimit limit).Shows (max limit 1) [] :=
  ⟨rfl, List.drop_nil.symm⟩

theorem Shows.length (shows : log.Shows room told) :
    log.entries.length = min told.length room := by
  rw [shows.entries, List.length_drop]
  omega

theorem Shows.clear (shows : log.Shows room told) : log.clear.Shows room [] :=
  ⟨shows.limit, List.drop_nil.symm⟩

/-- The log is full exactly if as much was pushed as it has room for; then the first that it shows
is dropped. -/
theorem Shows.push (shows : log.Shows room told) (n : Notification) :
    (log.push n).Shows room (told ++ [n]) := by
  refine ⟨shows.limit, ?_⟩
  have length := shows.length
  rw [NotificationLog.push]
  simp only [List.length_append, List.length_singleton, length, shows.limit]
  have kept : told.length - room ≤ told.length := Nat.sub_le _ _
  split
  · rename_i full
    have more : told.length + 1 - room = told.length - room + 1 := by omega
    rw [shows.entries, ← List.drop_append_of_le_length kept, List.drop_drop, more]
  · have none : told.length + 1 - room = told.length - room := by omega
    rw [shows.entries, ← List.drop_append_of_le_length kept, none]

theorem Shows.latest (shows : log.Shows room told) (some : 0 < room) :
    log.latest? = told.getLast? := by
  rw [latest?, shows.entries, List.getLast?_drop]
  split
  · have none : told = [] := List.length_eq_zero_iff.mp (by omega)
    rw [none, List.getLast?_nil]
  · rfl

end NotificationLog

namespace PageState
variable {s : PageState} {room : Nat} {actions : List Action}

theorem shows_reduce (shows : s.notifications.Shows room (Action.pushed actions))
    (action : Action) :
    (s.reduce action).notifications.Shows room (Action.pushed (actions ++ [action])) := by
  rw [notifications_reduce]
  cases action with
  | clearNotifications =>
    rw [Action.pushed_clear]
    exact shows.clear
  | notify n =>
    rw [Action.pushed_keeps rfl]
    exact shows.push n
  | _ =>
    rw [Action.pushed_keeps rfl]
    simpa only [Action.logged, Action.notification?, Option.toList, List.append_nil] using shows

theorem shows_foldl (config : Config) (actions : List Action) :
    (actions.foldl reduce (initial config)).notifications.Shows
      (max config.notificationHistory.toNat 1) (Action.pushed actions) := by
  induction actions using List.reverseRecOn with
  | nil => exact NotificationLog.shows_ofLimit _
  | append_singleton earlier action ih =>
    rw [List.foldl_append]
    exact shows_reduce ih action

/-- Whatever happened to a page since its start, its log holds the last notifications of those that
were pushed since it was last cleared, the oldest first and each as it was pushed: as many as it was
set up for, at least one, or all of them if they are fewer. The latest is the last one pushed. -/
theorem log_shows_latest (config : Config) (actions : List Action) :
    let log := (actions.foldl reduce (initial config)).notifications
    let told := Action.pushed actions
    let count := min told.length (max config.notificationHistory.toNat 1)
    log.entries.length = count ∧ log.entries = told.drop (told.length - count) ∧
      log.latest? = told.getLast? := by
  intro log told count
  have shows : log.Shows (max config.notificationHistory.toNat 1) told := shows_foldl config actions
  have same : told.length - count = told.length - max config.notificationHistory.toNat 1 := by omega
  exact ⟨shows.length, by rw [same, shows.entries], shows.latest (by omega)⟩

theorem limit_after (s : PageState) (setting : RequestSetting) (action : Action) :
    (s.after setting action).notifications.limit = s.notifications.limit := by
  refine after_of (P := fun s' => s'.notifications.limit = s.notifications.limit) rfl ?_
  rw [notifications_reduce]
  cases action <;> rfl

end PageState

theorem History.limit_eq {setting : RequestSetting} {first : PageState} {past : History}
    (follows : past.Always (Turn.Follows setting first)) :
    (past.state first).notifications.limit = first.notifications.limit := by
  induction past with
  | nil => rfl
  | cons t earlier ih =>
    obtain ⟨follow, follows⟩ := follows
    rw [state, follow.after, PageState.limit_after, follow.before, ih follows]

theorem Course.log_has_room {c : Course} {moves : List Move} {config : Config}
    {highlighter : Option (Highlighter Id)} {token : UInt64}
    (run : (start config highlighter token).run moves = some c) :
    0 < c.store.state.notifications.limit := by
  have traced := traced_run run
  have started : 0 < (PageState.initial config).notifications.limit :=
    Nat.lt_of_lt_of_le Nat.one_pos (Nat.le_max_right _ 1)
  rw [traced.state, History.limit_eq traced.follows]
  exact started

end SnippetPage
