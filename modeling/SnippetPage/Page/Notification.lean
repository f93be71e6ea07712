/-!
# Notifications

Short messages to the user, and the log that keeps the latest of them.
-/

namespace SnippetPage

inductive NotificationKind where
  | success
  | error
  | warning
  | info
  deriving DecidableEq, Repr

namespace NotificationKind

def emoji : NotificationKind → String
  | success => "✅"
  | error => "🚨"
  | warning => "⚠️"
  | info => "ℹ️"

def cssClass : NotificationKind → String
  | success => "toast-success"
  | error => "toast-error"
  | warning => "toast-warning"
  | info => "toast-info"

end NotificationKind

structure Notification where
  kind : NotificationKind
  title : String
  message : String
  deriving DecidableEq, Repr

/-- The latest notifications, the oldest first. -/
structure NotificationLog where
  entries : List Notification := []
  limit : Nat := 100
  deriving DecidableEq, Repr

namespace NotificationLog

def ofLimit (limit : Nat) : NotificationLog :=
  { limit := max limit 1 }

def latest? (log : NotificationLog) : Option Notification :=
  log.entries.getLast?

/-- The log with one more notification; the oldest makes room for it. -/
def push (log : NotificationLog) (n : Notification) : NotificationLog :=
  let entries := log.entries ++ [n]
  { log with entries := if log.limit < entries.length then entries.drop 1 else entries }

def clear (log : NotificationLog) : NotificationLog :=
  { log with entries := [] }

end NotificationLog

end SnippetPage
