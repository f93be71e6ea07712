import SnippetPage.Markup.Escape

/-!
# Reading markup

Markup as a tree of elements and texts. The reader is strict: angle brackets stand around tags
only, every element is closed by its own name, and the entities in a text stand for their
characters. What an element encloses is read in front of any text that goes on with a tag, so the
markup of a whole is read piece by piece.
-/

namespace SnippetPage.Markup

inductive Node where
  | text (content : String)
  /-- An element with all that stands in its opening tag. -/
  | element (tag : String) (children : List Node)

/-- A text with its entities replaced by the characters that they stand for. -/
def unescape : List Char → List Char
  | '&' :: 'a' :: 'm' :: 'p' :: ';' :: cs => '&' :: unescape cs
  | '&' :: 'l' :: 't' :: ';' :: cs => '<' :: unescape cs
  | '&' :: 'g' :: 't' :: ';' :: cs => '>' :: unescape cs
  | '&' :: 'q' :: 'u' :: 'o' :: 't' :: ';' :: cs => '"' :: unescape cs
  | '&' :: '#' :: '3' :: '9' :: ';' :: cs => '\'' :: unescape cs
  | c :: cs => c :: unescape cs
  | [] => []

/-- The name of an element, up to the first blank of its tag. -/
def tagName (tag : String) : String :=
  String.ofList (tag.toList.takeWhile (· != ' '))

/-- A text as a node, unless it is empty. -/
def textNodes (content : String) : List Node :=
  if content = "" then [] else [.text content]

/-- The text that was held back, latest character first. -/
def heldNodes (held : List Char) : List Node :=
  textNodes (String.ofList (unescape held.reverse))

/-- The open elements with the nodes before them, and the nodes of the innermost one. -/
structure Open where
  elements : List (String × List Node)
  nodes : List Node

def Open.add (o : Open) (ns : List Node) : Open :=
  { o with nodes := o.nodes ++ ns }

/-- Opens an element or closes the innermost one, if the tag has its name. -/
def Open.tag (o : Open) : List Char → Option Open
  | '/' :: name =>
    match o.elements with
    | (tag, before) :: outer =>
      if tagName tag = String.ofList name then some ⟨outer, before ++ [.element tag o.nodes]⟩
      else none
    | [] => none
  | tag => some ⟨(String.ofList tag, o.nodes) :: o.elements, []⟩

/-- Reads markup after `held`, the characters since the last bracket, latest first, which was an
opening one if they are inside a tag. -/
def read (o : Open) (held : List Char) (inside : Bool) : List Char → Option (List Node)
  | [] => if inside ∨ o.elements ≠ [] then none else some (o.add (heldNodes held)).nodes
  | c :: cs =>
    if c = '<' then if inside then none else read (o.add (heldNodes held)) [] true cs
    else if c = '>' then
      if inside then (o.tag held.reverse).bind fun o => read o [] false cs else none
    else read o (c :: held) inside cs

def readAll (markup : String) : Option (List Node) :=
  read ⟨[], []⟩ [] false markup.toList

mutual

/-- What the elements with a tag enclose, in order. -/
def Node.contents (tag : String) : Node → List (List Node)
  | .text _ => []
  | .element own children => (if own = tag then [children] else []) ++ contents tag children

def contents (tag : String) : List Node → List (List Node)
  | [] => []
  | n :: rest => n.contents tag ++ contents tag rest

end

/-! ### Entities -/

theorem unescape_plain {c : Char} (plain : c ≠ '&') (cs : List Char) :
    unescape (c :: cs) = c :: unescape cs := by
  rw [unescape]
  all_goals
    intros
    simp_all

theorem unescape_textEntity (c : Char) (cs : List Char) :
    unescape (textEntity c ++ cs) = c :: unescape cs := by
  unfold textEntity
  split
  · subst c
    rfl
  · rename_i plain
    split
    · subst c
      rfl
    · split
      · subst c
        rfl
      · exact unescape_plain plain cs

theorem unescape_attributeEntity (c : Char) (cs : List Char) :
    unescape (attributeEntity c ++ cs) = c :: unescape cs := by
  unfold attributeEntity
  split
  · subst c
    rfl
  · exact unescape_textEntity c cs

/-- Entities that each stand for a character stand for the text. -/
theorem unescape_flatMap {entity : Char → List Char}
    (stands : ∀ c cs, unescape (entity c ++ cs) = c :: unescape cs) (cs : List Char) :
    unescape (cs.flatMap entity) = cs := by
  induction cs with
  | nil => rfl
  | cons c cs ih => rw [List.flatMap_cons, stands, ih]

def Flat (cs : List Char) : Prop :=
  ∀ c ∈ cs, c ≠ '<' ∧ c ≠ '>'

theorem flat_iff {cs : List Char} :
    cs.all (fun c => c != '<' && c != '>') = true ↔ Flat cs := by
  simp [Flat]

instance (cs : List Char) : Decidable (Flat cs) :=
  decidable_of_iff _ flat_iff

theorem flat_textEntity (c : Char) : Flat (textEntity c) := by
  unfold textEntity
  split
  · decide
  · split
    · decide
    · rename_i notOpening
      split
      · decide
      · rename_i notClosing
        exact List.forall_mem_singleton.mpr ⟨notOpening, notClosing⟩

theorem flat_escapeText (s : String) : Flat (escapeText s).toList := by
  intro c member
  rw [toList_escapeText, List.mem_flatMap] at member
  obtain ⟨d, -, part⟩ := member
  exact flat_textEntity d c part

/-! ### Pieces of markup -/

/-- A text that ends or goes on with a tag. -/
def Resumes (cs : List Char) : Prop :=
  ∀ c ∈ cs.head?, c = '<'

/-- A piece of markup that is read as some nodes, wherever it stands. -/
structure Reads (markup : String) (ns : List Node) : Prop where
  resumes : Resumes markup.toList
  read : ∀ o rest, Resumes rest →
    Markup.read o [] false (markup.toList ++ rest) = Markup.read (o.add ns) [] false rest

theorem heldNodes_nil : heldNodes [] = [] := by
  simp [heldNodes, textNodes, unescape]

theorem Open.add_nil (o : Open) : o.add [] = o := by
  simp [Open.add]

theorem Open.add_add (o : Open) (ms ns : List Node) : (o.add ms).add ns = o.add (ms ++ ns) := by
  simp [Open.add]

theorem read_flat {cs : List Char} (flat : Flat cs) (o : Open) (held : List Char) (inside : Bool)
    (rest : List Char) :
    read o held inside (cs ++ rest) = read o (cs.reverse ++ held) inside rest := by
  induction cs generalizing held with
  | nil => rfl
  | cons c cs ih =>
    obtain ⟨⟨notOpening, notClosing⟩, others⟩ := List.forall_mem_cons.mp flat
    rw [List.cons_append, List.reverse_cons, List.append_assoc, List.singleton_append,
      ← ih others, read, if_neg notOpening, if_neg notClosing]

theorem read_text {cs : List Char} (flat : Flat cs) {rest : List Char} (resumes : Resumes rest)
    (o : Open) :
    read o [] false (cs ++ rest) =
      read (o.add (textNodes (String.ofList (unescape cs)))) [] false rest := by
  have held : heldNodes cs.reverse = textNodes (String.ofList (unescape cs)) := by
    rw [heldNodes, List.reverse_reverse]
  rw [read_flat flat, List.append_nil]
  cases rest with
  | nil => simp [read, held, heldNodes_nil, Open.add]
  | cons c rest =>
    obtain rfl : c = '<' := resumes c rfl
    simp only [read, if_true, held, heldNodes_nil, Open.add_nil, Bool.false_eq_true, if_false]

theorem read_tag {tag : List Char} (flat : Flat tag) (o : Open) (rest : List Char) :
    read o [] false ('<' :: (tag ++ '>' :: rest)) =
      (o.tag tag).bind fun o => read o [] false rest := by
  rw [read, if_pos rfl, if_neg Bool.false_ne_true, heldNodes_nil, Open.add_nil, read_flat flat,
    List.append_nil, read, if_neg (by decide), if_pos rfl, if_pos rfl, List.reverse_reverse]

def openTag (tag : String) : String :=
  "<" ++ tag ++ ">"

def closeTag (tag : String) : String :=
  "</" ++ tagName tag ++ ">"

def enclose (tag inner : String) : String :=
  openTag tag ++ (inner ++ closeTag tag)

/-- What may stand in an opening tag. -/
def isTag (tag : String) : Bool :=
  tag.toList.head? != some '/' && tag.toList.all fun c => c != '<' && c != '>'

/-- How the tags around an element are written. -/
structure Spelled (tag opening closing : String) : Prop where
  isTag : isTag tag = true
  opens : openTag tag = opening
  closes : closeTag tag = closing

instance (tag opening closing : String) : Decidable (Spelled tag opening closing) :=
  decidable_of_iff (isTag tag = true ∧ openTag tag = opening ∧ closeTag tag = closing)
    ⟨fun ⟨own, opens, closes⟩ => ⟨own, opens, closes⟩, fun s => ⟨s.isTag, s.opens, s.closes⟩⟩

theorem Spelled.enclose {tag opening closing : String} (spelled : Spelled tag opening closing)
    (inner : String) : enclose tag inner = opening ++ (inner ++ closing) := by
  rw [Markup.enclose, spelled.opens, spelled.closes]

theorem Reads.nil : Reads "" [] where
  resumes := nofun
  read o rest _ := by rw [Open.add_nil, String.toList_empty, List.nil_append]

theorem Reads.append {s t : String} {ms ns : List Node} (first : Reads s ms)
    (second : Reads t ns) : Reads (s ++ t) (ms ++ ns) := by
  have follows : ∀ rest, Resumes rest → Resumes (t.toList ++ rest) := by
    intro rest resumes
    have own := second.resumes
    cases split : t.toList with
    | nil => exact resumes
    | cons c tail =>
      rw [split] at own
      exact own
  constructor
  · have own := first.resumes
    rw [String.toList_append]
    cases split : s.toList with
    | nil => exact second.resumes
    | cons c tail =>
      rw [split] at own
      exact own
  · intro o rest resumes
    rw [String.toList_append, List.append_assoc, first.read o _ (follows rest resumes),
      second.read _ rest resumes, Open.add_add]

theorem reads_enclose (tag : String) (isTag : isTag tag = true) {inner : String} {ns : List Node}
    (read : ∀ o rest, Resumes rest →
      Markup.read o [] false (inner.toList ++ rest) = Markup.read (o.add ns) [] false rest) :
    Reads (enclose tag inner) [.element tag ns] := by
  obtain ⟨opening, plain⟩ := Bool.and_eq_true_iff.mp isTag
  have flat : Flat tag.toList := flat_iff.mp plain
  have name : Flat ('/' :: (tagName tag).toList) := by
    refine List.forall_mem_cons.mpr ⟨by decide, ?_⟩
    intro c member
    rw [tagName, String.toList_ofList] at member
    exact flat c ((List.takeWhile_sublist _).subset member)
  have shape : ∀ rest, (enclose tag inner).toList ++ rest = '<' :: (tag.toList ++ '>' ::
      (inner.toList ++ '<' :: ('/' :: (tagName tag).toList ++ '>' :: rest))) := by
    intro rest
    simp [enclose, openTag, closeTag]
  constructor
  · rw [← List.append_nil (enclose tag inner).toList, shape]
    rintro c ⟨⟩
    rfl
  · intro o rest _
    have opens : o.tag tag.toList = some ⟨(tag, o.nodes) :: o.elements, []⟩ := by
      unfold Open.tag
      split
      · rename_i name start
        rw [start] at opening
        cases opening
      · rw [String.ofList_toList]
    have resumes : Resumes ('<' :: ('/' :: (tagName tag).toList ++ '>' :: rest)) := by
      rintro c ⟨⟩
      rfl
    -- what is enclosed goes on with the closing tag, so it is read as it is in front of any tag
    rw [shape, read_tag flat, opens, Option.bind_some, read _ _ resumes, read_tag name]
    simp [Open.tag, Open.add]

theorem reads_element (tag : String) (own : isTag tag = true) {inner : String} {ns : List Node}
    (inside : Reads inner ns) : Reads (enclose tag inner) [.element tag ns] :=
  reads_enclose tag own inside.read

/-- An element around escaped text encloses the text itself. -/
theorem reads_text (tag : String) (own : isTag tag = true) (content : String) :
    Reads (enclose tag (escapeText content)) [.element tag (textNodes content)] := by
  refine reads_enclose tag own fun o rest resumes => ?_
  rw [read_text (flat_escapeText content) resumes, toList_escapeText,
    unescape_flatMap unescape_textEntity, String.ofList_toList]

theorem reads_join {α : Type} {print : α → String} {node : α → Node} (as : List α)
    (each : ∀ a, Reads (print a) [node a]) : Reads (String.join (as.map print)) (as.map node) := by
  induction as with
  | nil => exact .nil
  | cons a as ih =>
    rw [List.map_cons, List.map_cons, String.join_cons]
    exact (each a).append ih

theorem readAll_of_reads {markup : String} {ns : List Node} (reads : Reads markup ns) :
    readAll markup = some ns := by
  have whole := reads.read ⟨[], []⟩ [] nofun
  rw [List.append_nil] at whole
  rw [readAll, whole]
  simp [read, heldNodes_nil, Open.add]

/-! ### Elements of a tree -/

section
variable (tag : String)

theorem contents_nil : contents tag [] = [] :=
  rfl

theorem contents_cons (n : Node) (ns : List Node) :
    contents tag (n :: ns) = n.contents tag ++ contents tag ns :=
  rfl

theorem contents_textNodes (content : String) : contents tag (textNodes content) = [] := by
  unfold textNodes
  split
  · rfl
  · rfl

theorem contents_map {α : Type} (node : α → Node) (as : List α) :
    contents tag (as.map node) = as.flatMap fun a => (node a).contents tag := by
  induction as with
  | nil => rfl
  | cons a as ih => rw [List.map_cons, contents_cons, ih, List.flatMap_cons]

end

theorem textNodes_injective : Function.Injective textNodes := by
  intro s t same
  unfold textNodes at same
  split at same
  · rename_i empty
    split at same
    · rename_i alsoEmpty
      rw [empty, alsoEmpty]
    · cases same
  · split at same
    · cases same
    · simpa using same

end SnippetPage.Markup
