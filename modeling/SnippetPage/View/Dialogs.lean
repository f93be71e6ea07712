import SnippetPage.Markup.Escape
import SnippetPage.Page.Notification
import SnippetPage.Page.Picker
import SnippetPage.Page.Prompt

/-!
# Dialogs and messages

The markup of the picker, of the prompt and of the notifications.
-/

namespace SnippetPage

open Markup

def Preview.markup (c : Preview) : String :=
  "<div class=\"snippet-item\" data-snippet-id=\"" ++ escapeAttribute (SnippetId.text c.id) ++
  "\">" ++
  "<div class=\"snippet-item-name\">" ++ escapeText c.name ++ "</div>" ++
  "<div class=\"snippet-item-language\">" ++ (c.language.map Language.name).getD "No language" ++
  "</div></div>"

def Picker.markup (p : Picker) : String :=
  "<div class=\"compare-modal-overlay show\"><div class=\"compare-modal\">" ++
  "<h3 class=\"compare-modal-title\">Select Snippet to Compare</h3>" ++
  "<div class=\"snippet-list\">" ++ String.join (p.candidates.map Preview.markup) ++ "</div>" ++
  "<div class=\"modal-buttons\">" ++
  "<button class=\"btn btn-secondary\" data-action=\"close-picker\">Cancel</button>" ++
  "</div></div></div>"

def Prompt.markup (p : Prompt) : String :=
  "<div class=\"confirm-overlay show\"><div class=\"confirm-dialog\">" ++
  "<h3>" ++ p.title ++ "</h3>" ++
  "<p class=\"confirm-target\">" ++ escapeText p.target ++ "</p>" ++
  "<p>" ++ p.question ++ "</p>" ++
  "<div class=\"modal-buttons\">" ++
  "<button class=\"btn btn-secondary\" data-action=\"dismiss\">Cancel</button>" ++
  "<button class=\"btn btn-danger\" data-action=\"confirm\">" ++ p.confirmLabel ++ "</button>" ++
  "</div></div></div>"

def Notification.markup (n : Notification) : String :=
  "<div class=\"toast " ++ n.kind.cssClass ++ "\">" ++
  "<span class=\"toast-icon\">" ++ n.kind.emoji ++ "</span>" ++
  "<div><div class=\"toast-title\">" ++ escapeText n.title ++ "</div>" ++
  "<div class=\"toast-message\">" ++ escapeText n.message ++ "</div></div></div>"

def NotificationLog.markup (log : NotificationLog) : String :=
  "<div class=\"toast-container\">" ++ String.join (log.entries.map Notification.markup) ++ "</div>"

end SnippetPage
