import HostBoard.Web.Component
import Mathlib.Algebra.Ring.Nat

/-!
# Markup read back

What is shown cannot be taken for markup. A page's source is cut into tags and texts as a browser
does it (`Piece.ofMarkup`): a tag goes from an angle bracket to the next one outside quotes, a
quoted value goes up to the next quote, and escapes are undone in texts and in values. Read back
like that, the source of a component is the list of pieces that its state calls for, each string of
the state in its own place, whatever characters it is made of.

Texts and values hold no bracket and no quote that was not written for them, so a cut never falls
inside one. `Scans` says that a piece of markup is cut in the same way whatever follows it. It is
kept by putting markup together, and each component is put together from elements, texts and marks.
-/

namespace HostBoard.Web

/-! ## Cutting markup -/

/-- Undo the escapes of a text or of a value. -/
def unescape : Markup → List Char
  | '&' :: 'a' :: 'm' :: 'p' :: ';' :: rest => '&' :: unescape rest
  | '&' :: 'l' :: 't' :: ';' :: rest => '<' :: unescape rest
  | '&' :: 'g' :: 't' :: ';' :: rest => '>' :: unescape rest
  | '&' :: 'q' :: 'u' :: 'o' :: 't' :: ';' :: rest => '"' :: unescape rest
  | c :: rest => c :: unescape rest
  | [] => []

/-- A tag, with its source outside quotes and the values inside, or a text. -/
inductive Piece where
  | tag (source : String) (values : List String)
  | text (content : String)
deriving DecidableEq, Repr

/-- Where a place in a page's source is, with what was read of the piece there, last first. -/
inductive Place where
  | text (read : List Char)
  | tag (source : List Char) (values : List String)
  | value (source : List Char) (values : List String) (read : List Char)

/-- The text between two tags, if there is one. -/
def Piece.ofText (read : List Char) : List Piece :=
  if read.isEmpty then [] else [.text (String.ofList (unescape read.reverse))]

/-- Cut the rest of a page's source. -/
def scan : Place → Markup → List Piece
  | .text read, [] => Piece.ofText read
  | .text read, c :: rest =>
    if c = '<' then Piece.ofText read ++ scan (.tag [] []) rest
    else scan (.text (c :: read)) rest
  | .tag _ _, [] => []
  | .tag source values, c :: rest =>
    if c = '>' then .tag (String.ofList source.reverse) values.reverse :: scan (.text []) rest
    else if c = '"' then scan (.value ('"' :: source) values []) rest
    else scan (.tag (c :: source) values) rest
  | .value _ _ _, [] => []
  | .value source values read, c :: rest =>
    if c = '"' then
      scan (.tag ('"' :: source) (String.ofList (unescape read.reverse) :: values)) rest
    else scan (.value source values (c :: read)) rest

/-- The pieces of a page's source. -/
def Piece.ofMarkup (markup : Markup) : List Piece :=
  scan (.text []) markup

/-! ## Escapes -/

lemma unescape_cons {c : Char} (plain : c ≠ '&') (rest : Markup) :
    unescape (c :: rest) = c :: unescape rest := by
  rw [unescape.eq_def]
  split <;> simp_all

lemma unescape_textChar (c : Char) (rest : Markup) :
    unescape (textChar c ++ rest) = c :: unescape rest := by
  unfold textChar
  split
  · rfl
  · rfl
  · rfl
  · next plain _ _ => exact unescape_cons plain rest

lemma unescape_attributeChar (c : Char) (rest : Markup) :
    unescape (attributeChar c ++ rest) = c :: unescape rest := by
  unfold attributeChar
  split
  · rfl
  · exact unescape_textChar c rest

/-- Undoing the escapes of a string character by character gives the string. -/
lemma unescape_flatMap {escape : Char → Markup}
    (undone : ∀ c rest, unescape (escape c ++ rest) = c :: unescape rest) (cs : List Char) :
    unescape (cs.flatMap escape) = cs := by
  induction cs with
  | nil => rfl
  | cons c cs ih => rw [List.flatMap_cons, undone, ih]

lemma textChar_ne_nil (c : Char) : textChar c ≠ [] := by
  unfold textChar
  split <;> exact List.cons_ne_nil _ _

lemma not_mem_textChar {b : Char} (bracket : b = '<' ∨ b = '>') (c : Char) : b ∉ textChar c := by
  rcases bracket with rfl | rfl <;> unfold textChar <;> split <;> simp_all [eq_comm]

lemma not_mem_attributeChar {b : Char} (special : b = '<' ∨ b = '>' ∨ b = '"') (c : Char) :
    b ∉ attributeChar c := by
  unfold attributeChar
  split
  · rcases special with rfl | rfl | rfl <;> decide
  next other =>
    rcases special with rfl | rfl | rfl
    · exact not_mem_textChar (.inl rfl) c
    · exact not_mem_textChar (.inr rfl) c
    · unfold textChar
      split <;> simp_all [eq_comm]

lemma not_mem_text {b : Char} (bracket : b = '<' ∨ b = '>') (s : String) : b ∉ text s := by
  unfold text
  split
  · rcases bracket with rfl | rfl <;> decide
  · intro among
    obtain ⟨c, -, inside⟩ := List.mem_flatMap.mp among
    exact not_mem_textChar bracket c inside

lemma not_mem_attributeValue {b : Char} (special : b = '<' ∨ b = '>' ∨ b = '"') (s : String) :
    b ∉ attributeValue s := by
  intro among
  obtain ⟨c, -, inside⟩ := List.mem_flatMap.mp among
  exact not_mem_attributeChar special c inside

/-! ## Pieces of markup -/

lemma scan_text_append {run : List Char} (inside : '<' ∉ run) (read : List Char) (rest : Markup) :
    scan (.text read) (run ++ rest) = scan (.text (run.reverse ++ read)) rest := by
  induction run generalizing read with
  | nil => rfl
  | cons c run ih =>
    rw [List.mem_cons, not_or] at inside
    obtain ⟨other, inside⟩ := inside
    rw [List.cons_append, scan, if_neg (Ne.symm other), ih inside]
    simp

lemma scan_value_append {run : List Char} (inside : '"' ∉ run) (source : List Char)
    (values : List String) (read : List Char) (rest : Markup) :
    scan (.value source values read) (run ++ rest) =
      scan (.value source values (run.reverse ++ read)) rest := by
  induction run generalizing read with
  | nil => rfl
  | cons c run ih =>
    rw [List.mem_cons, not_or] at inside
    obtain ⟨other, inside⟩ := inside
    rw [List.cons_append, scan, if_neg (Ne.symm other), ih inside]
    simp

/-- The text of a string: a space where the string is empty. -/
def slot (s : String) : Piece :=
  .text (if s.isEmpty then " " else s)

/-- The markup is cut into the pieces, whatever follows it. -/
def Scans (markup : Markup) (pieces : List Piece) : Prop :=
  ∀ rest, scan (.text []) (markup ++ rest) = pieces ++ scan (.text []) rest

/-- The markup is cut into the pieces before any tag. -/
def Fills (markup : Markup) (pieces : List Piece) : Prop :=
  ∀ rest, scan (.text []) (markup ++ '<' :: rest) = pieces ++ scan (.tag [] []) rest

lemma Scans.fills {markup : Markup} {pieces : List Piece} (scans : Scans markup pieces) :
    Fills markup pieces :=
  fun rest => scans ('<' :: rest)

lemma Scans.append {first second : Markup} {pieces others : List Piece}
    (one : Scans first pieces) (two : Scans second others) :
    Scans (first ++ second) (pieces ++ others) := by
  intro rest
  rw [List.append_assoc, one, two, List.append_assoc]

lemma scans_nil : Scans [] [] :=
  fun _ => rfl

lemma Scans.ofMarkup {markup : Markup} {pieces : List Piece} (scans : Scans markup pieces) :
    Piece.ofMarkup markup = pieces := by
  have whole := scans []
  rw [List.append_nil] at whole
  rw [Piece.ofMarkup, whole]
  exact List.append_nil pieces

lemma fills_text (s : String) : Fills (text s) [slot s] := by
  intro rest
  have read : Piece.ofText (text s).reverse = [slot s] := by
    unfold text slot
    cases empty : s.isEmpty with
    | true => rfl
    | false =>
      have some_char : s.toList.flatMap textChar ≠ [] := by
        intro none
        cases chars : s.toList with
        | nil => simp_all
        | cons c cs =>
          rw [chars, List.flatMap_cons] at none
          exact textChar_ne_nil c (List.append_eq_nil_iff.mp none).1
      simp [Piece.ofText, some_char, unescape_flatMap unescape_textChar]
  rw [scan_text_append (not_mem_text (.inl rfl) s), List.append_nil, scan, if_pos rfl, read]

lemma scans_nothing : Scans nothing [.tag "!" []] :=
  fun _ => rfl

/-- An element is its opening tag, its content and its closing tag. -/
lemma scans_element {tag attributes : String} {content : Markup} {opening closing : Piece}
    {pieces : List Piece} (fills : Fills content pieces)
    (opens : ∀ rest, scan (.tag [] []) (tag.toList ++ attributes.toList ++ '>' :: rest) =
      opening :: scan (.text []) rest)
    (closes : ∀ rest, scan (.tag [] []) ('/' :: tag.toList ++ '>' :: rest) =
      closing :: scan (.text []) rest) :
    Scans (element tag attributes content) (opening :: pieces ++ [closing]) := by
  intro rest
  have split : element tag attributes content ++ rest =
      '<' :: (tag.toList ++ attributes.toList ++ '>' :: (content ++ '<' ::
        ('/' :: tag.toList ++ '>' :: rest))) := by
    simp [element]
  have start : ∀ more, scan (.text []) ('<' :: more) = scan (.tag [] []) more := fun _ => rfl
  rw [split, start, opens, fills, closes]
  simp

/-- The pieces of a part that may be absent. -/
def optionalPieces (part : String → List Piece) : Option String → List Piece
  | none => [.tag "!" []]
  | some s => part s

lemma scans_orNothing {part : String → Markup} {pieces : String → List Piece}
    (each : ∀ s, Scans (part s) (pieces s)) (s : Option String) :
    Scans (orNothing part s) (optionalPieces pieces s) := by
  cases s with
  | none => exact scans_nothing
  | some s => exact each s

lemma scans_sequence {α : Type} {part : α → Markup} {pieces : α → List Piece}
    (each : ∀ a, Scans (part a) (pieces a)) (parts : List α) :
    Scans (sequence part parts) (parts.flatMap pieces ++ [.tag "!" []]) := by
  refine Scans.append ?_ scans_nothing
  induction parts with
  | nil => exact scans_nil
  | cons a parts ih => exact (each a).append ih

/-! ## Angle brackets -/

/-- The markup has this number of angle brackets of either kind. -/
structure Brackets (markup : Markup) (number : Nat) : Prop where
  opening : markup.count '<' = number
  closing : markup.count '>' = number

instance (markup : Markup) (number : Nat) : Decidable (Brackets markup number) :=
  decidable_of_iff (markup.count '<' = number ∧ markup.count '>' = number)
    ⟨fun both => ⟨both.1, both.2⟩, fun both => ⟨both.1, both.2⟩⟩

lemma Brackets.append {first second : Markup} {m n : Nat} (one : Brackets first m)
    (two : Brackets second n) : Brackets (first ++ second) (m + n) where
  opening := by rw [List.count_append, one.opening, two.opening]
  closing := by rw [List.count_append, one.closing, two.closing]

lemma Brackets.of_eq {markup : Markup} {m n : Nat} (brackets : Brackets markup m) (same : m = n) :
    Brackets markup n :=
  same ▸ brackets

lemma brackets_text (s : String) : Brackets (text s) 0 where
  opening := List.count_eq_zero.mpr (not_mem_text (.inl rfl) s)
  closing := List.count_eq_zero.mpr (not_mem_text (.inr rfl) s)

lemma brackets_attributeValue (s : String) : Brackets (attributeValue s) 0 where
  opening := List.count_eq_zero.mpr (not_mem_attributeValue (.inl rfl) s)
  closing := List.count_eq_zero.mpr (not_mem_attributeValue (.inr (.inl rfl)) s)

lemma brackets_orNothing {part : String → Markup} {n : Nat} (each : ∀ s, Brackets (part s) n)
    (s : Option String) : Brackets (orNothing part s) (if s.isSome then n else 1) := by
  cases s with
  | none => exact ⟨rfl, rfl⟩
  | some s => exact each s

/-- An element has two brackets of either kind around its content. -/
lemma brackets_element {tag attributes : String} {content : Markup} {n : Nat}
    (none_tag : Brackets tag.toList 0) (none_attributes : Brackets attributes.toList 0)
    (inside : Brackets content n) : Brackets (element tag attributes content) (n + 2) where
  opening := by
    simp [element, none_tag.opening, none_attributes.opening, inside.opening]
  closing := by
    simp [element, none_tag.closing, none_attributes.closing, inside.closing]

lemma brackets_sequence {α : Type} {part : α → Markup} {n : α → Nat}
    (each : ∀ a, Brackets (part a) (n a)) (parts : List α) :
    Brackets (sequence part parts) ((parts.map n).sum + 1) := by
  refine Brackets.append ?_ (by decide)
  induction parts with
  | nil => exact ⟨rfl, rfl⟩
  | cons a parts ih => exact (each a).append ih

/-! ## Components -/

/-- The pieces of an element of a class that holds the text of a string. -/
def boxPieces (tag name s : String) : List Piece :=
  [.tag (tag ++ " class=\"\"") [name], slot s, .tag ("/" ++ tag) []]

/-- The pieces of a host view. -/
def hostViewPieces (view : HostView) : List Piece :=
  [.tag "div data-status=\"\" class=\"\"" [view.status, "host-view"]] ++
  boxPieces "div" "host-name" view.regions.name ++
  boxPieces "div" "host-status" view.regions.status ++
  boxPieces "div" "host-paths" view.regions.paths ++
  optionalPieces (boxPieces "div" "host-error error") view.error ++
  [.tag "/div" []]

/-- The pieces of a host list. -/
def hostListPieces (error : Option String) (views : List HostView) : List Piece :=
  .tag "div id=\"\"" ["content"] ::
    (optionalPieces (boxPieces "p" "error") error ++
      (views.flatMap hostViewPieces ++ [.tag "!" []])) ++
  [.tag "/div" []]

/-- The pieces of a log item. -/
def logItemPieces (item : LogItem) : List Piece :=
  .tag "li" [] ::
    (boxPieces "span" "log-time" item.time ++ boxPieces "div" "log-message" item.message) ++
  [.tag "/li" []]

/-- The pieces of the log panel. -/
def logListPieces (panel : LogPanel) : List Piece :=
  .tag "section class=\"\"" ["logs"] ::
    (.tag "div id=\"\" class=\"\"" ["logs", "error"] ::
        optionalPieces (fun s => [slot s]) panel.text ++
      [.tag "/div" []] ++
      (.tag "ul id=\"\"" ["logcontent"] ::
          (panel.items.flatMap logItemPieces ++ [.tag "!" []]) ++
        [.tag "/ul" []])) ++
  [.tag "/section" []]

/-- The opening tag of a host view holds its status as a value. -/
lemma scans_status (status : String) :
    Scans ("<div data-status=\"".toList ++ attributeValue status ++
        "\" class=\"host-view\">".toList)
      [.tag "div data-status=\"\" class=\"\"" [status, "host-view"]] := by
  intro rest
  have opens : ∀ more, scan (.text []) ("<div data-status=\"".toList ++ more) =
      scan (.value "div data-status=\"".toList.reverse [] []) more := fun _ => rfl
  have closes : ∀ read, scan (.value "div data-status=\"".toList.reverse [] read)
      ("\" class=\"host-view\">".toList ++ rest) =
        .tag "div data-status=\"\" class=\"\""
          [String.ofList (unescape read.reverse), "host-view"] :: scan (.text []) rest :=
    fun _ => rfl
  rw [List.append_assoc, List.append_assoc, opens,
    scan_value_append (not_mem_attributeValue (.inr (.inr rfl)) status), closes, List.append_nil,
    List.reverse_reverse, attributeValue, unescape_flatMap unescape_attributeChar,
    String.ofList_toList]
  rfl

lemma scans_hostViewMarkup (view : HostView) :
    Scans (hostViewMarkup view) (hostViewPieces view) := by
  unfold hostViewMarkup hostViewPieces
  refine Scans.append ?_ fun _ => rfl
  refine Scans.append ?_ (scans_orNothing ?_ view.error)
  · refine Scans.append ?_ (scans_element (fills_text _) (fun _ => rfl) fun _ => rfl)
    refine Scans.append ?_ (scans_element (fills_text _) (fun _ => rfl) fun _ => rfl)
    exact (scans_status _).append (scans_element (fills_text _) (fun _ => rfl) fun _ => rfl)
  · exact fun e => scans_element (fills_text e) (fun _ => rfl) fun _ => rfl

lemma scans_hostListMarkup (error : Option String) (views : List HostView) :
    Scans (hostListMarkup error views) (hostListPieces error views) := by
  refine scans_element (Scans.fills ?_) (fun _ => rfl) fun _ => rfl
  refine (scans_orNothing ?_ error).append (scans_sequence scans_hostViewMarkup views)
  exact fun e => scans_element (fills_text e) (fun _ => rfl) fun _ => rfl

lemma scans_logItemMarkup (item : LogItem) : Scans (logItemMarkup item) (logItemPieces item) := by
  refine scans_element (Scans.fills ?_) (fun _ => rfl) fun _ => rfl
  refine Scans.append ?_ (scans_element (fills_text _) (fun _ => rfl) fun _ => rfl)
  exact scans_element (fills_text _) (fun _ => rfl) fun _ => rfl

lemma scans_logListMarkup (panel : LogPanel) :
    Scans (logListMarkup panel) (logListPieces panel) := by
  have shown : Fills (orNothing text panel.text)
      (optionalPieces (fun s => [slot s]) panel.text) := by
    cases panel.text with
    | none => exact scans_nothing.fills
    | some s => exact fills_text s
  refine scans_element (Scans.fills ?_) (fun _ => rfl) fun _ => rfl
  refine Scans.append (scans_element shown (fun _ => rfl) fun _ => rfl) ?_
  exact scans_element (scans_sequence scans_logItemMarkup panel.items).fills (fun _ => rfl)
    fun _ => rfl

lemma brackets_hostViewMarkup (view : HostView) :
    Brackets (hostViewMarkup view) (8 + if view.error.isSome then 2 else 1) := by
  have value := brackets_attributeValue view.status
  have opening : Brackets ("<div data-status=\"".toList ++ attributeValue view.status ++
      "\" class=\"host-view\">".toList) 1 := by
    constructor
    · rw [List.count_append, List.count_append, value.opening]
      decide
    · rw [List.count_append, List.count_append, value.closing]
      decide
  have box : ∀ (attributes s : String), Brackets attributes.toList 0 →
      Brackets (element "div" attributes (text s)) 2 := fun _ s none =>
    brackets_element (by decide) none (brackets_text s)
  have error : Brackets (orNothing
      (fun e => element "div" " class=\"host-error error\"" (text e)) view.error)
      (if view.error.isSome then 2 else 1) :=
    brackets_orNothing (fun e => box _ e (by decide)) view.error
  have name := box " class=\"host-name\"" view.regions.name (by decide)
  have status := box " class=\"host-status\"" view.regions.status (by decide)
  have paths := box " class=\"host-paths\"" view.regions.paths (by decide)
  have closing : Brackets "</div>".toList 1 := by decide
  have whole := ((((opening.append name).append status).append paths).append error).append closing
  refine whole.of_eq ?_
  omega

lemma sum_hostViewBrackets (views : List HostView) :
    (views.map fun view => 8 + if view.error.isSome then 2 else 1).sum =
      9 * views.length + views.countP fun view => view.error.isSome := by
  induction views with
  | nil => rfl
  | cons view views ih =>
    rw [List.map_cons, List.sum_cons, ih, List.length_cons, List.countP_cons]
    split
    · omega
    · omega

lemma brackets_hostListMarkup (error : Option String) (views : List HostView) :
    Brackets (hostListMarkup error views)
      (3 + (if error.isSome then 2 else 1) + 9 * views.length +
        views.countP fun view => view.error.isSome) := by
  have paragraph : Brackets (orNothing (fun e => element "p" " class=\"error\"" (text e)) error)
      (if error.isSome then 2 else 1) :=
    brackets_orNothing (fun e => brackets_element (by decide) (by decide) (brackets_text e)) error
  have whole : Brackets (hostListMarkup error views) _ :=
    brackets_element (by decide) (by decide)
      (paragraph.append (brackets_sequence brackets_hostViewMarkup views))
  refine whole.of_eq ?_
  rw [sum_hostViewBrackets]
  omega

/-- Views without content have no errors. -/
lemma brackets_unloaded (error : Option String) (hrefs : List String) :
    Brackets (hostListMarkup error (hrefs.map HostView.unloaded))
      (3 + (if error.isSome then 2 else 1) + 9 * hrefs.length) := by
  have quiet : (hrefs.map HostView.unloaded).countP (fun view => view.error.isSome) = 0 := by
    rw [List.countP_map]
    exact List.countP_eq_zero.mpr fun _ _ => Bool.false_ne_true
  refine (brackets_hostListMarkup error (hrefs.map HostView.unloaded)).of_eq ?_
  rw [quiet, List.length_map]
  rfl

lemma brackets_logItemMarkup (item : LogItem) : Brackets (logItemMarkup item) 6 :=
  brackets_element (by decide) (by decide)
    ((brackets_element (by decide) (by decide) (brackets_text item.time)).append
      (brackets_element (by decide) (by decide) (brackets_text item.message)))

lemma brackets_logListMarkup (panel : LogPanel) :
    Brackets (logListMarkup panel)
      (7 + (if panel.text.isSome then 0 else 1) + 6 * panel.items.length) := by
  have shown : Brackets
      (element "div" " id=\"logs\" class=\"error\"" (orNothing text panel.text)) _ :=
    brackets_element (by decide) (by decide) (brackets_orNothing brackets_text panel.text)
  have items : Brackets
      (element "ul" " id=\"logcontent\"" (sequence logItemMarkup panel.items)) _ :=
    brackets_element (by decide) (by decide)
      (brackets_sequence brackets_logItemMarkup panel.items)
  have whole : Brackets (logListMarkup panel) _ :=
    brackets_element (by decide) (by decide) (shown.append items)
  refine whole.of_eq ?_
  rw [List.map_const', List.sum_replicate_nat]
  omega

/-- The marker for the first line break of a message is escaped like any other text. -/
lemma text_message {before : String} (none_before : '\n' ∉ before.toList) (time after : String) :
    text (LogEntry.message ⟨time, before ++ "\n" ++ after⟩) =
      before.toList.flatMap textChar ++ "&lt;br/&gt;".toList ++ after.toList.flatMap textChar := by
  have marked : (LogEntry.message ⟨time, before ++ "\n" ++ after⟩).toList =
      before.toList ++ LogEntry.lineBreakMarker ++ after.toList := by
    have content : (before ++ "\n" ++ after).toList = before.toList ++ '\n' :: after.toList := by
      simp
    rw [LogEntry.message, String.toList_ofList, content,
      LogEntry.markFirstBreak_append none_before]
  have filled : (LogEntry.message ⟨time, before ++ "\n" ++ after⟩).isEmpty = false := by
    rw [Bool.eq_false_iff]
    intro empty
    rw [String.isEmpty_iff] at empty
    rw [empty] at marked
    simp [LogEntry.lineBreakMarker] at marked
  rw [text, filled, marked, List.flatMap_append, List.flatMap_append]
  rfl

variable {σ : Type}

/-- Whatever a client replies, the source of a component has a number of angle brackets that depends
only on how many views or items there are and on whether there is an error or a text, and read back
it is the list of pieces of the component's state: no string of the state is taken for a tag or for
the end of a value, and each is found in its place, or a space where it is empty. This holds of a
host list as it is first written, and later too, whatever its views show by then. No status holds a
quote, and the marker for a line break is written as text. -/
theorem contents_are_shown_as_text (client : Client σ) (url : String) (s : Session σ) :
    (let view := (mountHostView client url s).1
      let source := (Component.hostView.display client url s).1
      Brackets source (8 + if view.error.isSome then 2 else 1) ∧
      Piece.ofMarkup source = hostViewPieces view) ∧
    (let list := (mountHostList client url s).1
      let source := (Component.hostList.display client url s).1
      Brackets source (3 + (if list.error.isSome then 2 else 1) + 9 * list.hrefs.length) ∧
      Piece.ofMarkup source = hostListPieces list.error (list.hrefs.map HostView.unloaded) ∧
      ∀ views : List HostView,
        let later := hostListMarkup list.error views
        Brackets later (3 + (if list.error.isSome then 2 else 1) + 9 * views.length +
          views.countP fun view => view.error.isSome) ∧
        Piece.ofMarkup later = hostListPieces list.error views) ∧
    (let panel := (mountLogList client url s).1
      let source := (Component.logList.display client url s).1
      Brackets source (7 + (if panel.text.isSome then 0 else 1) + 6 * panel.items.length) ∧
      Piece.ofMarkup source = logListPieces panel) ∧
    (∀ status : String, '"' ∉ attributeValue status) ∧
    ∀ time before after : String, '\n' ∉ before.toList →
      text (LogEntry.message ⟨time, before ++ "\n" ++ after⟩) =
        before.toList.flatMap textChar ++ "&lt;br/&gt;".toList ++
          after.toList.flatMap textChar := by
  refine ⟨⟨?_, ?_⟩, ⟨?_, ?_, fun views => ⟨?_, ?_⟩⟩, ⟨?_, ?_⟩, ?_, ?_⟩
  · exact brackets_hostViewMarkup _
  · exact (scans_hostViewMarkup _).ofMarkup
  · exact brackets_unloaded _ _
  · exact (scans_hostListMarkup _ _).ofMarkup
  · exact brackets_hostListMarkup _ views
  · exact (scans_hostListMarkup _ views).ofMarkup
  · exact brackets_logListMarkup _
  · exact (scans_logListMarkup _).ofMarkup
  · exact not_mem_attributeValue (.inr (.inr rfl))
  · exact fun time before after none_before => text_message none_before time after

/-- A host whose name and status look like markup. -/
def hostileHost : HostDescriptor :=
  ⟨"</div><script>", "\" onclick=\"&quot;", []⟩

/-- A client that has nothing but the hostile host. -/
def hostileClient : Client Unit :=
  .constant fun _ => .ok ⟨200, hostileHost.toJson.compact⟩

/-- The hostile host is shown with its name as a text and its status as a value. -/
theorem contents_are_shown_as_text_hostileHost :
    let source := (Component.hostView.display hostileClient "/web" (Session.start ())).1
    '\n' ∉ "<b>".toList ∧
    text (LogEntry.message ⟨"noon", "<b>" ++ "\n" ++ "</b>"⟩) =
      "&lt;b&gt;&lt;br/&gt;&lt;/b&gt;".toList ∧
    Brackets source 9 ∧
    Piece.ofMarkup source =
      [.tag "div data-status=\"\" class=\"\"" ["\" onclick=\"&quot;", "host-view"],
        .tag "div class=\"\"" ["host-name"], .text "</div><script>", .tag "/div" [],
        .tag "div class=\"\"" ["host-status"], .text "\" onclick=\"&quot;", .tag "/div" [],
        .tag "div class=\"\"" ["host-paths"], .text "\x7b\x7d", .tag "/div" [],
        .tag "!" [], .tag "/div" []] := by
  obtain ⟨⟨brackets, pieces⟩, -, -, -, message⟩ :=
    contents_are_shown_as_text hostileClient "/web" (Session.start ())
  have none_before : '\n' ∉ "<b>".toList := by decide
  refine ⟨none_before, message "noon" "<b>" "</b>" none_before, ?_, pieces.trans ?_⟩
  · refine brackets.of_eq ?_
    decide +kernel
  · decide +kernel

end HostBoard.Web
