import SnippetPage.Markdown.Line
import SnippetPage.Text.Ascii

/-!
# Raw HTML

The forms of raw HTML: tags, comments, instructions, declarations and character data inside a
paragraph, and the lines that open a block of HTML. A reader takes the text after `<` and gives
the text after the form.
-/

namespace SnippetPage.Markdown

def after? (stop : List Char) : List Char → Option (List Char)
  | [] => none
  | c :: rest =>
    if stop.isPrefixOf (c :: rest) then some ((c :: rest).drop stop.length) else after? stop rest

def dropMark (c : Char) : List Char → List Char
  | d :: rest => if d = c then rest else d :: rest
  | [] => []

/-- The blanks between the parts of a tag; line ends count where the tag may span lines. -/
def isTagSpace (multiline : Bool) (c : Char) : Bool :=
  isSpace c || (multiline && c == '\n')

def attributeName? : List Char → Option (List Char)
  | [] => none
  | c :: rest =>
    if Text.isAsciiLetter c || c == '_' || c == ':' then
      some (rest.dropWhile fun d =>
        Text.isAsciiAlphanumeric d || d == '_' || d == '.' || d == ':' || d == '-')
    else none

/-- The characters of an attribute value without quotes. -/
def isBareValueChar (c : Char) : Bool :=
  !"'\" =><\x60\n".toList.contains c

def attributeValue? (multiline : Bool) : List Char → Option (List Char)
  | [] => none
  | c :: rest =>
    if c = '"' ∨ c = '\'' then
      match rest.dropWhile fun d => d != c && (multiline || d != '\n') with
      | d :: rest => if d = c then some rest else none
      | [] => none
    else if isBareValueChar c then some (rest.dropWhile isBareValueChar)
    else none

/-- The text after an attribute and its value. -/
def attribute? (multiline : Bool) (cs : List Char) : Option (List Char) := do
  let named ← attributeName? cs
  match named.dropWhile (isTagSpace multiline) with
  | '=' :: rest => attributeValue? multiline (rest.dropWhile (isTagSpace multiline))
  | _ => some named

/-- The text after the attributes of a tag and its closing bracket. -/
def attributes? (multiline : Bool) : Nat → List Char → Option (List Char)
  | 0, _ => none
  | fuel + 1, cs =>
    match cs.dropWhile (isTagSpace multiline) with
    | '/' :: '>' :: rest | '>' :: rest => some rest
    | next =>
      if next.length = cs.length then none
      else (attribute? multiline next).bind (attributes? multiline fuel)

def tag? (multiline : Bool) (cs : List Char) : Option (List Char) :=
  let (closing, cs) := match cs with
    | '/' :: rest => (true, rest)
    | _ => (false, cs)
  match cs with
  | [] => none
  | c :: rest =>
    if !Text.isAsciiLetter c then none
    else
      let named := rest.dropWhile fun d => Text.isAsciiAlphanumeric d || d == '-'
      if closing then
        match skipSpace named with
        | '>' :: rest => some rest
        | _ => none
      else attributes? multiline (named.length + 1) named

/-- The text after raw HTML inside a paragraph. -/
def inlineHtml? : List Char → Option (List Char)
  | '!' :: '-' :: '-' :: rest =>
    match rest with
    | '>' :: rest | '-' :: '>' :: rest => some rest
    | rest => after? "-->".toList rest
  | '!' :: '[' :: 'C' :: 'D' :: 'A' :: 'T' :: 'A' :: '[' :: rest => after? "]]>".toList rest
  | '!' :: c :: rest => if Text.isAsciiLetter c then after? ['>'] rest else none
  | '?' :: rest => after? "?>".toList rest
  | cs => tag? true cs

inductive HtmlEnd where
  /-- The first line that contains a text. -/
  | line (stop : List Char)
  /-- A blank line. -/
  | blank
  deriving Repr

/-- The elements whose content is taken as it is, up to the end tag. -/
def verbatimElements : List String :=
  ["pre", "style", "script", "textarea"]

/-- The elements that open a block of HTML with either of their tags. -/
def blockElements : List String :=
  ["address", "article", "aside", "base", "basefont", "blockquote", "body", "caption", "center",
    "col", "colgroup", "dd", "details", "dialog", "dir", "div", "dl", "dt", "fieldset",
    "figcaption", "figure", "footer", "form", "frame", "frameset", "h1", "h2", "h3", "h4", "h5",
    "h6", "head", "header", "hr", "html", "iframe", "legend", "li", "link", "main", "menu",
    "menuitem", "nav", "noframes", "ol", "optgroup", "option", "p", "param", "search", "section",
    "summary", "table", "tbody", "td", "tfoot", "th", "thead", "title", "tr", "track", "ul"]

/-- Whether a text starts with the name of a verbatim element, in any case, as a whole word. -/
def startsElement (cs : List Char) (name : String) : Bool :=
  Text.sameIgnoringCase (String.ofList (cs.take name.length)) name &&
    match cs.drop name.length with
    | [] => true
    | c :: _ => isSpace c || c == '>'

/-- The end of a block of HTML whose first line goes on with a text that only an end mark closes. -/
def verbatimEnd? (cs : List Char) : Option HtmlEnd :=
  match verbatimElements.find? (startsElement cs) with
  | some name => some (.line (("</" ++ name ++ ">").toList))
  | none =>
    match cs with
    | '!' :: '-' :: '-' :: _ => some (.line "-->".toList)
    | '?' :: _ => some (.line "?>".toList)
    | '!' :: '[' :: 'C' :: 'D' :: 'A' :: 'T' :: 'A' :: '[' :: _ => some (.line "]]>".toList)
    | '!' :: c :: _ => if Text.isAsciiLetter c then some (.line ['>']) else none
    | _ => none

/-- Whether a text starts with a tag of a block element. -/
def startsBlockElement (cs : List Char) : Bool :=
  let cs := dropMark '/' cs
  let name := String.ofList (cs.takeWhile Text.isAsciiAlphanumeric)
  blockElements.any (Text.sameIgnoringCase name) &&
    match cs.dropWhile Text.isAsciiAlphanumeric with
    | [] => true
    | c :: rest => c == ' ' || c == '\t' || c == '>' || (c == '/' && rest.head? == some '>')

/-- The end of the block of HTML that a line opens, also inside a paragraph. -/
def interruptingHtml? : List Char → Option HtmlEnd
  | '<' :: rest => verbatimEnd? rest <|> (if startsBlockElement rest then some .blank else none)
  | _ => none

/-- The end of the block of HTML that a line opens. -/
def openingHtml? (cs : List Char) : Option HtmlEnd :=
  interruptingHtml? cs <|>
    match cs with
    | '<' :: rest =>
      match tag? false rest with
      | some rest => if allSpace rest then some .blank else none
      | none => none
    | _ => none

/-- Whether a line is the last of a block of HTML. -/
def HtmlEnd.within (line : List Char) : HtmlEnd → Bool
  | .line stop => (after? stop line).isSome
  | .blank => false

end SnippetPage.Markdown
