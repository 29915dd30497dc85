import HtmlMarkdown.Proofs.Rule.Link
import HtmlMarkdown.Proofs.Text.Edges

/-!
# Targets and titles

Behind the text of a link or an image stand its target and its title, and Markdown has rules of its
own to read them (`readTarget?`): the target goes up to blank space unless it is in angle brackets,
and the title up to a quote with an even number of backslashes before it. A target with blank space
is put in angle brackets for a link, but not for an image. In a title the quotes are escaped, but
the backslashes are not, so a backslash can only be read back if it escapes nothing
(`plainBackslashes`).

* `readsTitle`: a title is read back, or what is read is shorter, or nothing is.
* `target_reads_iff`: **when a link and an image are read back.**
-/

namespace HtmlMarkdown

namespace Markdown

open Text

variable {c : Char} {t u target title : Text}

/-! ## How Markdown reads a target and a title -/

/-- What stands before the first quote with an even number of backslashes right before it, and what
is behind that quote; `escaped` says whether the number has been odd so far. -/
def closeQuote? : (escaped : Bool) → Text → Option (Text × Text)
  | _, [] => none
  | escaped, c :: cs =>
    if c == '"' && !escaped then some ([], cs)
    else (closeQuote? (c == '\\' && !escaped) cs).map fun r => (c :: r.1, r.2)

/-- Take the backslashes off quotes and backslashes. -/
def unescapeTitle : Text → Text
  | '\\' :: '"' :: t => '"' :: unescapeTitle t
  | '\\' :: '\\' :: t => '\\' :: unescapeTitle t
  | c :: t => c :: unescapeTitle t
  | [] => []

/-- The title behind an opening quote, and what is behind it. -/
def readTitle? (t : Text) : Option (Text × Text) :=
  (closeQuote? false t).map fun r => (unescapeTitle r.1, r.2)

/-- The destination: in angle brackets, or else what comes before blank space. -/
def readDestination? : Text → Option (Text × Text)
  | '<' :: t =>
    match t.dropWhile (· != '>') with
    | _ :: rest => some (t.takeWhile (· != '>'), rest)
    | [] => none
  | t => some (t.takeWhile fun c => !isBlank c, t.dropWhile fun c => !isBlank c)

/-- The title behind a destination; empty if there is none. -/
def readTitlePart? (t : Text) : Option Text :=
  match trimStart t with
  | [] => some []
  | '"' :: quoted =>
    (readTitle? quoted).bind fun r => if isBlankText r.2 then some r.1 else none
  | _ => none

/-- **The target and the title** between the parentheses of a link or an image. -/
def readTarget? (t : Text) : Option (Text × Text) :=
  (readDestination? t).bind fun r => (readTitlePart? r.2).map fun title => (r.1, title)

/-- A title as it is written between its quotes. -/
def escapeTitle (t : Text) : Text := replaceChar '"' "\\\"" t

theorem escapeTitle_cons (c : Char) (t : Text) :
    escapeTitle (c :: t) = (if c = '"' then ['\\', '"'] else [c]) ++ escapeTitle t := rfl

/-- **Does every backslash escape nothing?** It stands before some other character than a backslash
or a quote. -/
def plainBackslashes : Text → Bool
  | [] => true
  | c :: t =>
    (c != '\\' || t.head?.any fun d => d != '\\' && d != '"') && plainBackslashes t

/-! ### A title, one character or one pair at a time -/

theorem unescapeTitle_other (hslash : c ≠ '\\') (t : Text) :
    unescapeTitle (c :: t) = c :: unescapeTitle t := by
  rw [unescapeTitle]
  · rintro u rfl
    exact absurd rfl hslash
  · rintro u rfl
    exact absurd rfl hslash

theorem unescapeTitle_plain (hslash : c ≠ '\\') (hquote : c ≠ '"') (t : Text) :
    unescapeTitle ('\\' :: c :: t) = '\\' :: c :: unescapeTitle t := by
  rw [unescapeTitle, unescapeTitle_other hslash]
  · rintro u - h
    exact hquote (List.cons.inj h).1
  · rintro u - h
    exact hslash (List.cons.inj h).1

/-- Behind a backslash no quote closes. -/
theorem closeQuote?_pair (c : Char) (t : Text) :
    closeQuote? false ('\\' :: c :: t) =
      (closeQuote? false t).map fun r => ('\\' :: c :: r.1, r.2) := by
  rw [closeQuote?, closeQuote?]
  simp [Function.comp_def]

theorem readTitle?_other (hslash : c ≠ '\\') (hquote : c ≠ '"') (t : Text) :
    readTitle? (c :: t) = (readTitle? t).map fun r => (c :: r.1, r.2) := by
  have hopen : (c == '"' && !false) = false := by simp [hquote]
  have heven : (c == '\\' && !false) = false := by simp [hslash]
  unfold readTitle?
  rw [closeQuote?, hopen, if_neg Bool.false_ne_true, heven, Option.map_map, Option.map_map]
  simp only [Function.comp_def, unescapeTitle_other hslash]

theorem readTitle?_pair (c : Char) (t : Text) :
    readTitle? ('\\' :: c :: t) =
      (closeQuote? false t).map fun r => (unescapeTitle ('\\' :: c :: r.1), r.2) := by
  unfold readTitle?
  rw [closeQuote?_pair, Option.map_map]
  rfl

theorem readTitle?_escape (hc : c = '\\' ∨ c = '"') (t : Text) :
    readTitle? ('\\' :: c :: t) = (readTitle? t).map fun r => (c :: r.1, r.2) := by
  rw [readTitle?_pair, readTitle?, Option.map_map]
  rcases hc with rfl | rfl <;> rfl

theorem readTitle?_plain (hslash : c ≠ '\\') (hquote : c ≠ '"') (t : Text) :
    readTitle? ('\\' :: c :: t) = (readTitle? t).map fun r => ('\\' :: c :: r.1, r.2) := by
  rw [readTitle?_pair, readTitle?, Option.map_map]
  simp only [unescapeTitle_plain hslash hquote]
  rfl

/-- A character of a title that is no backslash is read back, a quote as well. -/
theorem readTitle?_escaped_cons (hslash : c ≠ '\\') (t : Text) :
    readTitle? (escapeTitle (c :: t) ++ ['"']) =
      (readTitle? (escapeTitle t ++ ['"'])).map fun r => (c :: r.1, r.2) := by
  rw [escapeTitle_cons]
  split
  case isTrue hquote =>
    rw [hquote]
    exact readTitle?_escape (.inr rfl) _
  case isFalse hquote => exact readTitle?_other hslash hquote _

/-- **What comes of reading a title**: the title if its backslashes escape nothing, and else
something shorter, if anything at all. -/
structure ReadsTitle (t : Text) : Prop where
  whole : plainBackslashes t = true → readTitle? (escapeTitle t ++ ['"']) = some (t, [])
  shorter : plainBackslashes t = false →
    ∀ r ∈ readTitle? (escapeTitle t ++ ['"']), r.1.length < t.length

theorem ReadsTitle.length_le (h : ReadsTitle t) {r : Text × Text}
    (hr : r ∈ readTitle? (escapeTitle t ++ ['"'])) : r.1.length ≤ t.length := by
  cases hplain : plainBackslashes t with
  | true =>
    rw [h.whole hplain] at hr
    cases hr
    exact le_rfl
  | false => exact (h.shorter hplain r hr).le

/-- Characters that are read one by one make no difference. -/
theorem ReadsTitle.append (h : ReadsTitle t)
    (hplain : plainBackslashes (u ++ t) = plainBackslashes t)
    (hread : readTitle? (escapeTitle (u ++ t) ++ ['"']) =
      (readTitle? (escapeTitle t ++ ['"'])).map fun r => (u ++ r.1, r.2)) :
    ReadsTitle (u ++ t) where
  whole := by
    intro hu
    rw [hread, h.whole (hplain.symm.trans hu)]
    rfl
  shorter := by
    intro hu r hr
    rw [hread] at hr
    obtain ⟨r', hr', rfl⟩ := Option.map_eq_some_iff.1 hr
    have hlt := h.shorter (hplain.symm.trans hu) r' hr'
    rw [List.length_append, List.length_append]
    omega

/-- A character that is no backslash is read back, a quote as well. -/
theorem ReadsTitle.cons (h : ReadsTitle t) (hslash : c ≠ '\\') : ReadsTitle (c :: t) := by
  refine h.append (u := [c]) ?_ ?_
  · simp [plainBackslashes, hslash]
  · exact readTitle?_escaped_cons hslash t

/-- A backslash is read back together with what it does not escape. -/
theorem ReadsTitle.pair (h : ReadsTitle t) (hslash : c ≠ '\\') (hquote : c ≠ '"') :
    ReadsTitle ('\\' :: c :: t) := by
  refine h.append (u := ['\\', c]) ?_ ?_
  · have hother : (c != '\\') = true := bne_iff_ne.2 hslash
    have hplain : (c != '"') = true := bne_iff_ne.2 hquote
    simp [plainBackslashes, hother, hplain]
  · have hwritten : escapeTitle (['\\', c] ++ t) = '\\' :: c :: escapeTitle t := by
      simp [escapeTitle_cons, hquote]
    rw [hwritten]
    exact readTitle?_plain hslash hquote _

/-- Of two backslashes one is left. -/
theorem ReadsTitle.backslashes (h : ReadsTitle t) : ReadsTitle ('\\' :: '\\' :: t) where
  whole := fun hplain => absurd hplain (by simp [plainBackslashes])
  shorter := by
    intro _ r hr
    have hread : readTitle? (escapeTitle ('\\' :: '\\' :: t) ++ ['"']) =
        (readTitle? (escapeTitle t ++ ['"'])).map fun r => ('\\' :: r.1, r.2) :=
      readTitle?_escape (.inl rfl) _
    rw [hread] at hr
    obtain ⟨r', hr', rfl⟩ := Option.map_eq_some_iff.1 hr
    have hle := h.length_le hr'
    rw [List.length_cons, List.length_cons, List.length_cons]
    omega

/-- The backslash of a quote escapes the one that stands before it, so the quote closes. -/
theorem readsTitle_backslash_quote (t : Text) : ReadsTitle ('\\' :: '"' :: t) where
  whole := fun hplain => absurd hplain (by simp [plainBackslashes])
  shorter := by
    intro _ r hr
    have hread : readTitle? (escapeTitle ('\\' :: '"' :: t) ++ ['"']) =
        some (['\\'], escapeTitle t ++ ['"']) := rfl
    rw [hread] at hr
    cases hr
    simp

theorem readsTitle_nil : ReadsTitle [] where
  whole := fun _ => rfl
  shorter := fun h => absurd h (by decide)

theorem readsTitle (t : Text) : ReadsTitle t := by
  -- a backslash is read with the character behind it, so the induction looks at two characters
  induction t using List.twoStepInduction with
  | nil => exact readsTitle_nil
  | singleton c =>
    by_cases hslash : c = '\\'
    · -- the closing quote is escaped, so nothing is read
      rw [hslash]
      have hread : readTitle? (escapeTitle ['\\'] ++ ['"']) = none := rfl
      refine ⟨fun h => absurd h (by decide), fun _ r hr => ?_⟩
      rw [hread] at hr
      cases hr
    · exact readsTitle_nil.cons hslash
  | cons_cons c d t ih ihd =>
    by_cases hslash : c = '\\'
    · rw [hslash]
      by_cases hbackslash : d = '\\'
      · rw [hbackslash]
        exact ih.backslashes
      · by_cases hquote : d = '"'
        · rw [hquote]
          exact readsTitle_backslash_quote t
        · exact ih.pair hbackslash hquote
    · exact (ihd d).cons hslash

/-- **A title is read back** exactly if its backslashes escape nothing. -/
theorem readTitlePart?_iff :
    readTitlePart? (titlePart title) = some title ↔ plainBackslashes title = true := by
  by_cases hempty : title = []
  · rw [hempty]
    exact iff_of_true rfl rfl
  · have hpart : readTitlePart? (titlePart title) =
        (readTitle? (escapeTitle title ++ ['"'])).bind
          fun r => if isBlankText r.2 then some r.1 else none := by
      unfold titlePart
      rw [if_neg (by simpa using hempty)]
      rfl
    rw [hpart]
    constructor
    · intro h
      obtain ⟨r, hr, h⟩ := Option.bind_eq_some_iff.1 h
      split at h
      · cases h
        cases hplain : plainBackslashes r.1 with
        | true => rfl
        | false => exact absurd ((readsTitle r.1).shorter hplain r hr) (lt_irrefl _)
      · cases h
    · intro hplain
      rw [(readsTitle title).whole hplain]
      rfl

/-! ## A target that is written -/

/-- **A target that can be written**: it is not empty and has no angle brackets. -/
structure IsTarget (t : Text) : Prop where
  ne_nil : t ≠ []
  noOpen : '<' ∉ t
  noClose : '>' ∉ t

theorem readDestination?_bare (h : t.head? ≠ some '<') :
    readDestination? t =
      some (t.takeWhile fun c => !isBlank c, t.dropWhile fun c => !isBlank c) := by
  unfold readDestination?
  split
  · exact absurd rfl h
  · rfl

theorem readDestination?_brackets (h : '>' ∉ target) (rest : Text) :
    readDestination? ("<" ++ target ++ ">" ++ rest) = some (target, rest) := by
  have hsplit : "<".toList ++ target ++ ">".toList ++ rest = '<' :: (target ++ '>' :: rest) := by
    simp
  rw [hsplit]
  unfold readDestination?
  simp only [dropWhile_ne_append h, takeWhile_ne_append h]

/-- Behind a target stands nothing or blank space. -/
theorem titlePart_head (title : Text) :
    ∀ c, (titlePart title).head? = some c → (!isBlank c) = false := by
  intro c hc
  unfold titlePart at hc
  split at hc <;> cases hc
  rfl

theorem readTarget?_of_destination (h : readDestination? (u ++ titlePart title) =
    some (target, titlePart title)) :
    readTarget? (u ++ titlePart title) = some (target, title) ↔ plainBackslashes title = true := by
  rw [← readTitlePart?_iff]
  unfold readTarget?
  rw [h, Option.bind_some, Option.map_eq_some_iff]
  constructor
  · rintro ⟨title', hread, heq⟩
    cases heq
    exact hread
  · exact fun hread => ⟨title, hread, rfl⟩

/-- **A target without angle brackets around it** is read back if it has no blank space. -/
theorem readTarget?_bare_iff (ht : IsTarget target) :
    readTarget? (target ++ titlePart title) = some (target, title) ↔
      target.any isBlank = false ∧ plainBackslashes title = true := by
  have hhead : (target ++ titlePart title).head? ≠ some '<' := by
    obtain ⟨c, cs, rfl⟩ := List.exists_cons_of_ne_nil ht.ne_nil
    rintro h
    cases h
    exact ht.noOpen List.mem_cons_self
  have hdest := readDestination?_bare hhead
  cases hblank : target.any isBlank with
  | false =>
    have hvisible : target.all (fun c => !isBlank c) = true := by simpa using hblank
    rw [takeWhile_run hvisible (titlePart_head title),
      dropWhile_run hvisible (titlePart_head title)] at hdest
    rw [readTarget?_of_destination hdest]
    exact (and_iff_right rfl).symm
  | true =>
    refine iff_of_false (fun h => ?_) (fun h => Bool.noConfusion h.1)
    -- what is read stops at the blank space
    unfold readTarget? at h
    rw [hdest, Option.bind_some, Option.map_eq_some_iff,
      takeWhile_append_of_head (titlePart_head title)] at h
    obtain ⟨title', -, heq⟩ := h
    have hall := List.takeWhile_eq_self_iff.1 (Prod.ext_iff.1 heq).1
    obtain ⟨c, hc, hcblank⟩ := List.any_eq_true.1 hblank
    have hcvisible := hall c hc
    rw [hcblank] at hcvisible
    cases hcvisible

theorem readTarget?_link_iff (ht : IsTarget target) :
    readTarget? (linkTarget target ++ titlePart title) = some (target, title) ↔
      plainBackslashes title = true := by
  -- in angle brackets blank space does not matter, and without it they are not needed
  unfold linkTarget
  split
  case isTrue => exact readTarget?_of_destination (readDestination?_brackets ht.noClose _)
  case isFalse hvisible =>
    rw [readTarget?_bare_iff ht]
    exact and_iff_right (Bool.eq_false_iff.2 hvisible)

end Markdown

namespace Rule

open Text Markdown

variable {o : Options}

/-- **Targets and titles are read back** by Markdown's rules if the backslashes of the title escape
nothing; the target of an image must be without blank space, too. -/
theorem target_reads_iff (n : Node) (content : Text) (hstyle : o.linkStyle = .inlined) :
    let href := Attributes.clean (n.attr? "href")
    let src := Attributes.clean (n.attr? "src")
    let title := Attributes.clean (n.attr? "title")
    (IsTarget href → ¬ IsAutolink n →
      ∃ inner, link n content o = "[" ++ trim content ++ "](" ++ inner ++ ")" ∧
        (readTarget? inner = some (href, title) ↔ plainBackslashes title = true)) ∧
    (IsTarget src →
      ∃ inner, image n = "![" ++ Attributes.clean (n.attr? "alt") ++ "](" ++ inner ++ ")" ∧
        (readTarget? inner = some (src, title) ↔
          src.any isBlank = false ∧ plainBackslashes title = true)) := by
  intro href src title
  constructor
  · intro htarget hother
    refine ⟨_, ?_, readTarget?_link_iff htarget⟩
    rcases link_cases rfl htarget.ne_nil hstyle content with ⟨hauto, -⟩ | ⟨-, hlink⟩
    · exact absurd hauto hother
    · rw [hlink]
      simp [Rule.title, href, title]
  · intro htarget
    refine ⟨_, ?_, readTarget?_bare_iff htarget⟩
    have hempty : (Attributes.clean (n.attr? "src")).isEmpty = false := by
      simpa using htarget.ne_nil
    unfold image
    simp only [hempty]
    simp [Rule.title, src, title]

/-- A link to a target with blank space, and a title with a quote and a backslash in it. -/
def quotedLink : Document :=
  Document.ofRoot "a" [("href", " my page.html "), ("title", "the \"C:\\temp\" page")] [.text "x"]

/-- An image with such a title. -/
def quotedImage : Document :=
  Document.ofRoot "img" [("src", "my-page.png"), ("title", "the \"C:\\temp\" page")] []

theorem target_reads_iff_quoted :
    ({} : Options).linkStyle = .inlined ∧ ¬ IsAutolink quotedLink.root ∧
      IsTarget "my page.html" ∧ IsTarget "my-page.png" ∧
      (∃ inner, link quotedLink.root "x" {} = "[" ++ "x" ++ "](" ++ inner ++ ")" ∧
        readTarget? inner = some ("my page.html".toList, "the \"C:\\temp\" page".toList)) ∧
      ∃ inner, image quotedImage.root = "![" ++ "](" ++ inner ++ ")" ∧
        readTarget? inner = some ("my-page.png".toList, "the \"C:\\temp\" page".toList) := by
  have hother : ¬ IsAutolink quotedLink.root := by
    unfold IsAutolink
    decide
  have hhref : IsTarget "my page.html" := ⟨by decide, by decide, by decide⟩
  have hsrc : IsTarget "my-page.png" := ⟨by decide, by decide, by decide⟩
  obtain ⟨inner, hlink, hread⟩ :=
    (target_reads_iff quotedLink.root "x" (o := {}) rfl).1 hhref hother
  obtain ⟨inner', himage, hread'⟩ := (target_reads_iff quotedImage.root "" (o := {}) rfl).2 hsrc
  exact ⟨rfl, hother, hhref, hsrc, ⟨inner, hlink, hread.2 (by decide)⟩,
    inner', himage, hread'.2 (by decide)⟩

/-- An image whose target has blank space in it. -/
def spacedImage : Document := Document.ofRoot "img" [("src", "a b.png"), ("title", "x")] []

/-- A link whose title ends in a backslash. -/
def backslashLink : Document :=
  Document.ofRoot "a" [("href", "u"), ("title", "C:\\")] [.text "x"]

/-- **Blank space in the target of an image** ends it, and a backslash at the end of a title escapes
the quote that should close it. -/
theorem target_not_read :
    image spacedImage.root = "![](a b.png \"x\")" ∧
      readTarget? "a b.png \"x\"" = none ∧
      readTarget? "<a b.png> \"x\"" = some ("a b.png".toList, "x".toList) ∧
      link backslashLink.root "x" {} = "[x](u \"C:\\\")" ∧
      readTarget? "u \"C:\\\"" = none ∧
      readTarget? "u \"C:\\\\\"" = some ("u".toList, "C:\\".toList) := by
  decide

end Rule

end HtmlMarkdown
