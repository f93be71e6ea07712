import SnippetPage.Config.Basic
import SnippetPage.Toml.Reader

/-!
# Configuration files

The settings that a configuration text gives. Settings that it leaves out keep their defaults, and
members that are no setting are ignored.
-/

namespace SnippetPage

namespace Toml

/-- A text member, or the default where there is none. -/
def textOr? (members : List (String × Toml)) (key default : String) : Option String :=
  match (members.find? (·.1 == key)).map Prod.snd with
  | none => some default
  | some (.text s) => some s
  | some _ => none

/-- A member that is a natural number below `bound`, or the default where there is none. -/
def natOr? (members : List (String × Toml)) (key : String) (bound default : Nat) : Option Nat :=
  match (members.find? (·.1 == key)).map Prod.snd with
  | none => some default
  | some (.integer n) => if 0 ≤ n ∧ n < bound then some n.toNat else none
  | some _ => none

end Toml

namespace Config

def ofMembers? (members : List (String × Toml)) : Option Config := do
  let preset : Config := {}
  let baseUrl ← Toml.textOr? members "base_url" preset.baseUrl
  let timeout ← Toml.natOr? members "request_timeout_secs" UInt64.size preset.requestTimeoutSecs.toNat
  let pageSize ← Toml.natOr? members "candidate_page_size" UInt32.size preset.candidatePageSize.toNat
  let candidateSort ← Toml.textOr? members "candidate_sort" preset.candidateSort
  let highlightTheme ← Toml.textOr? members "highlight_theme" preset.highlightTheme
  let history ←
    Toml.natOr? members "notification_history" UInt64.size preset.notificationHistory.toNat
  let loginPath ← Toml.textOr? members "login_path" preset.loginPath
  let dashboardPath ← Toml.textOr? members "dashboard_path" preset.dashboardPath
  some
    { baseUrl, candidateSort, highlightTheme, loginPath, dashboardPath
      requestTimeoutSecs := timeout.toUInt64
      candidatePageSize := pageSize.toUInt32
      notificationHistory := history.toUInt64 }

/-- The settings that a configuration text gives. -/
def read? (source : String) : Option Config :=
  (Toml.read? source).bind ofMembers?

end Config

end SnippetPage
