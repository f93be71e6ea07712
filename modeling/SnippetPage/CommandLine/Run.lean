import SnippetPage.CommandLine.Arguments
import SnippetPage.Config.Lookup
import SnippetPage.Highlight.Engine
import SnippetPage.Markdown.Html
import SnippetPage.Page.Detail
import SnippetPage.Service.Client
import SnippetPage.View.Page

/-!
# A run of the program

What the program prints for its arguments, given its surroundings and a connection to the service.
-/

namespace SnippetPage

structure Outcome where
  /-- The code that the program ends with. -/
  code : UInt8
  output : String
  /-- The lines of the second output. -/
  remarks : List String
  deriving DecidableEq, Repr

namespace Command

variable {m : Type → Type} [Monad m]

def answerAll (connection : Request → m (Option Reply)) (client : Client) (page : Store) :
    m (Client × Store) :=
  page.openCalls.foldlM
    (fun (client, page) (c : OpenCall) => do
      let (client, answer) ← client.call connection c.call
      return (client, (page.answer c answer).pump.1))
    (client, page)

/-- The page after it was loaded and, if that is asked for, compared. -/
def showPage (connection : Request → m (Option Reply)) (config : Config) (a : Arguments) :
    m Store := do
  let highlighter := Engine.highlighter (Theme.named config.highlightTheme)
  let page := DetailPage.perform (DetailPage.new config (some highlighter)) (.load a.id)
  let (client, page) ← answerAll connection (Client.ofBase (some config.baseUrl)) page
  match a.other with
  | some other =>
    if page.state.mode.view.isSome then
      return (← answerAll connection client (DetailPage.perform page (.enterDiff other))).2
    else return page
  | none => return page

def notificationText (n : Notification) : String :=
  n.kind.emoji ++ " " ++ n.title ++ ": " ++ n.message

/-- The outcome for a page: its markup, its notifications and where its user is sent. -/
def pageOutcome (page : Store) : Outcome :=
  let s := page.state
  let highlighter := Engine.highlighter (Theme.named s.config.highlightTheme)
  let markup := s.markup (some highlighter) (some fun notes => some (Markdown.render notes))
  { code := 0
    output := markup ++ "\n"
    remarks := s.notifications.entries.map notificationText ++
      ((DetailPage.redirectPath s).map ("Redirect: " ++ ·)).toList }

def files (surroundings : Surroundings) : Option Command → List Path
  | some (.run a) =>
    match a.settings with
    | some path => [surroundings.resolve path]
    | none => surroundings.searched
  | _ => []

def settings (surroundings : Surroundings) (a : Arguments) : Except String Config := do
  let config ← match a.settings with
    | some path => surroundings.settingsAt path
    | none => pure surroundings.settings
  return { config with baseUrl := a.base.getD config.baseUrl }

/-- The outcome of a command; without one the arguments are at fault. -/
def perform (surroundings : Surroundings) (connection : Request → m (Option Reply)) :
    Option Command → m Outcome
  | none => return ⟨2, "", ["error: invalid arguments", "", "For more information, try '--help'."]⟩
  | some .help => return ⟨0, helpText, []⟩
  | some .version => return ⟨0, versionText, []⟩
  | some (.run a) =>
    match settings surroundings a with
    | .error message => return ⟨1, "", ["Error: " ++ message]⟩
    | .ok config => return pageOutcome (← showPage connection config a)

end Command

end SnippetPage
