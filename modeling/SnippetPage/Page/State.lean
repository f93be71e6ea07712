import SnippetPage.Config.Basic
import SnippetPage.Page.Mode
import SnippetPage.Page.Notification
import SnippetPage.Page.Picker
import SnippetPage.Page.Prompt
import SnippetPage.Page.Session

/-!
# The state of the page
-/

namespace SnippetPage

inductive Redirect where
  | login
  | dashboard
  deriving DecidableEq, Repr

def Redirect.path (config : Config) : Redirect → String
  | .login => config.loginPath
  | .dashboard => config.dashboardPath

/-- Everything the page shows and waits for. -/
structure PageState where
  session : Session := {}
  mode : Mode := .loading
  picker : Picker := {}
  notifications : NotificationLog := {}
  prompt : Option Prompt := none
  redirect : Option Redirect := none
  config : Config := {}
  deriving DecidableEq

def PageState.initial (config : Config) : PageState where
  notifications := NotificationLog.ofLimit config.notificationHistory.toNat
  config := config

end SnippetPage
