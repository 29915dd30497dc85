import HtmlMarkdown.Proofs.Convert.Content
import HtmlMarkdown.Proofs.Convert.Mirror
import HtmlMarkdown.Proofs.Rule.Reading

/-!
# What is in ignored elements

A conversion does not descend into ignored elements. But where a rule looks at the text below an
element, it sees what is in ignored elements as well (`convert_shows_hidden`). Two documents with
the same outline differ in nothing else, so their conversions go in step, from paired nodes to
paired nodes, as long as no rule looks below an element with an ignored one in it.

* `Discreet`: no rule looks into an ignored element of the document.
* `convert_outline_eq`: **discreet documents with the same outline are converted alike.**
-/

namespace HtmlMarkdown

open Document

theorem Paired.isOpen_iff {d d' : Document} {n n' : Node} (h : Paired d d' n n') :
    n.IsOpen ↔ n'.IsOpen := by
  unfold Node.IsOpen
  rw [h.isElement_eq, h.tag_eq]

/-- Above a node that is paired no element is ignored. -/
theorem Paired.isShown {d d' : Document} {n n' : Node} (h : Paired d d' n n') :
    n.isShown = true := by
  induction h with
  | root => exact isShown_root d
  | child _ hopen hc _ ih =>
    unfold Node.isShown at ih ⊢
    rw [Node.ancestors_child (List.mem_of_getElem? hc), List.all_cons, hopen, ih]
    rfl

namespace Convert

open Rule

variable {d d' : Document} {o : Options} {isEmail : Bool} {n n' : Node}

/-- **No rule looks into an ignored element**: outside of ignored elements there is none in an
element that a rule looks below. Besides, what is remembered of the texts is up to date. -/
structure Discreet (o : Options) (isEmail : Bool) (d : Document) : Prop where
  current : d.IsCurrent
  clear : ∀ id, (d.node id).isShown = true → LooksBelow o isEmail (d.node id) →
    (d.node id).IsClear

/-- Where a rule looks below one of two paired nodes, they are twins. -/
theorem Discreet.twin (hd : Discreet o isEmail d) (hd' : Discreet o isEmail d')
    (h : Paired d d' n n') (hlook : LooksBelow o isEmail n ∨ LooksBelow o isEmail n') :
    Twin d d' n n' := by
  have hclear : ∀ {e e' : Document} {m m' : Node}, Discreet o isEmail e → Paired e e' m m' →
      LooksBelow o isEmail m → m.IsClear := by
    intro e e' m m' he hm hlook
    obtain rfl := hm.doc_eq
    exact he.clear m.id hm.isShown hlook
  rcases hlook with hlook | hlook
  · exact ⟨h, hclear hd h hlook⟩
  · exact Twin.symm ⟨h.symm, hclear hd' h.symm hlook⟩

/-! ## In step -/

theorem atEdge_congr {s s' : Option Node} (h : s.map Node.data = s'.map Node.data) :
    atEdge s = atEdge s' := by
  cases s with
  | none =>
    cases s' with
    | none => rfl
    | some m' => cases h
  | some m =>
    cases s' with
    | none => cases h
    | some m' =>
      have htag : m.tag = m'.tag := by
        unfold Node.tag
        rw [Option.some.inj h]
      unfold atEdge
      rw [Option.all_some, Option.all_some, htag]

/-- Texts in the same place are written alike. -/
theorem text_paired (h : Paired d d' n n') (t : Text) : text n t o = text n' t o := by
  have hblock : (n.parent?.any fun p => Tag.isBlock p.tag) =
      n'.parent?.any fun p => Tag.isBlock p.tag := by
    rcases h.parent? with ⟨hnone, hnone'⟩ | ⟨p, p', hp, hsome, hsome'⟩
    · rw [hnone, hnone']
    · rw [hsome, hsome', Option.any_some, Option.any_some, hp.tag_eq]
  unfold text
  rw [hblock, atEdge_congr h.prev?_data, atEdge_congr h.next?_data]

/-- The rules make the same of paired elements. -/
theorem finish_paired (hd : Discreet o isEmail d) (hd' : Discreet o isEmail d')
    (h : Paired d d' n n') (he : n.isElement = true) (content : Text) :
    (Setup.mk .standard o isEmail).finish ((Setup.mk .standard o isEmail).ruleFor n.tag) n content =
      (Setup.mk .standard o isEmail).finish ((Setup.mk .standard o isEmail).ruleFor n'.tag) n'
        content := by
  have hrule : (Setup.mk .standard o isEmail).ruleFor n.tag =
      (if isEmail then Mail.rules.find? n.tag else none).or (General.rules.find? n.tag) :=
    Setup.ruleFor_builtin (lookup?_empty n.tag)
  have htwin := hd.twin hd' h
  rw [← h.tag_eq, hrule]
  cases hmail : (if isEmail then Mail.rules.find? n.tag else none) with
  | some rule =>
    rw [Option.some_or]
    cases hemail : isEmail with
    | true =>
      rw [hemail, if_pos rfl] at hmail
      subst hemail
      exact Setup.finish_congr
        (Mail.action_eq hd.current hd'.current htwin h rfl hmail content)
    | false =>
      rw [hemail] at hmail
      cases hmail
  | none =>
    rw [Option.none_or]
    cases hgeneral : General.rules.find? n.tag with
    | none => rfl
    | some rule =>
      exact Setup.finish_congr
        (General.action_eq hd.current hd'.current htwin h hgeneral he content)

/-- **Discreet documents with the same outline are converted in step.** -/
theorem inStep_paired (hd : Discreet o isEmail d) (hd' : Discreet o isEmail d') :
    InStep (Setup.mk .standard o isEmail) (Setup.mk .standard o isEmail) (Paired d d') where
  spacing := rfl
  isOpen := Paired.isOpen_iff
  inline := by
    intro n n' h
    unfold isInline
    rw [h.isElement_eq, h.tag_eq]
  leaf := by
    intro n n' h hopen levels
    rcases Node.not_isOpen hopen with ⟨t, hn⟩ | ⟨t, hn⟩ | ⟨tag, attributes, hn, hi⟩
    · rw [render_text hn, render_text (h.data_eq ▸ hn), text_paired h]
    · rw [render_comment hn, render_comment (h.data_eq ▸ hn)]
    · rw [render_ignored hn hi, render_ignored (h.data_eq ▸ hn) hi]
  children := fun h hopen => h.children hopen.2
  finish := fun h hopen content => finish_paired hd hd' h hopen.1 content

/-- **What is in ignored elements does not matter** where no rule looks at it: two discreet
documents whose trees differ in nothing else are converted to the same text, or with the same
error. -/
theorem convert_outline_eq (houtline : d.root.outline = d'.root.outline)
    (hd : Discreet o isEmail d) (hd' : Discreet o isEmail d') :
    (Setup.mk .standard o isEmail).convert d.root =
      (Setup.mk .standard o isEmail).convert d'.root :=
  (inStep_paired hd hd').convert_eq (.root houtline)

/-- A division with code and a script behind it. -/
def scripted (script : List Tree) : Document :=
  Document.ofRoot "div" [] [.element "code" [] [.text "a"], .element "script" [] script]

theorem discreet_scripted {script : List Tree}
    (hsnapshot : ∀ id : Nat, (scripted script).slots[id]?.bind Slot.snapshot = none)
    (hclosing : Mail.holdsAny ["sent from", "regards", "sincerely"]
      (Text.lower (scripted script).root.text) = false)
    (hbelow : (scripted script).descendants 1 = [2])
    (htag₀ : ((scripted script).node 0).tag = "div")
    (htag₁ : ((scripted script).node 1).tag = "code")
    (htag₂ : ((scripted script).node 2).tag = "")
    (htag : ∀ id, 2 ≤ id → ((scripted script).node id).tag ∈ ["", "script"]) :
    Discreet {} true (scripted script) := by
  refine ⟨fun id t h => ?_, fun id _ hlook => ?_⟩
  · change (scripted script).slots[id]?.bind Slot.snapshot = some t at h
    rw [hsnapshot id] at h
    cases h
  match id with
  | 0 =>
    -- the division is looked at in mail if it holds a closing phrase, and it does not
    cases hlook with
    | code hn _ => exact absurd hn (by rw [htag₀]; decide)
    | preformatted hn => exact absurd hn (by rw [htag₀]; decide)
    | table hn _ => exact absurd hn (by rw [htag₀]; decide)
    | address hn _ _ => exact absurd hn (by rw [htag₀]; decide)
    | closing _ _ _ hc => exact absurd (hclosing.symm.trans hc) Bool.false_ne_true
  | 1 =>
    -- the code is looked at, and there is only a text in it
    intro m hm
    by_cases hself : 1 = m
    · rw [← hself]
      change Tag.isIgnored ((scripted script).node 1).tag = false
      rw [htag₁]
      decide
    · have hmem : m ∈ (scripted script).descendants 1 := mem_descendants.2 ⟨hself, hm⟩
      rw [hbelow, List.mem_singleton] at hmem
      rw [hmem]
      change Tag.isIgnored ((scripted script).node 2).tag = false
      rw [htag₂]
      decide
  | id + 2 =>
    have hno : ∀ tag ∈ ["", "script"],
        Text.lowerName tag ∉ ["code", "pre", "table", "a", "div"] := by decide
    have hout := hno _ (htag (id + 2) (by omega))
    exfalso
    cases hlook with
    | code hn _ => exact hout (by rw [hn]; decide)
    | preformatted hn => exact hout (by rw [hn]; decide)
    | table hn _ => exact hout (by rw [hn]; decide)
    | address hn _ _ => exact hout (by rw [hn]; decide)
    | closing _ hn _ _ => exact hout (by rw [hn]; decide)

theorem convert_outline_eq_scripted :
    (scripted [.text "x"]).root.outline = (scripted []).root.outline ∧
      Discreet {} true (scripted [.text "x"]) ∧ Discreet {} true (scripted []) ∧
      (Setup.mk .standard {} true).convert (scripted [.text "x"]).root =
        (Setup.mk .standard {} true).convert (scripted []).root := by
  have hd : Discreet {} true (scripted [.text "x"]) := by
    refine discreet_scripted (fun id => ?_) (by decide) rfl rfl rfl rfl (fun id h => ?_)
    · match id with
      | 0 | 1 | 2 | 3 | 4 => rfl
      | id + 5 => rfl
    · match id with
      | 2 | 4 => exact List.mem_cons_self
      | 3 => exact List.mem_cons_of_mem _ List.mem_cons_self
      | id + 5 => exact List.mem_cons_self
  have hd' : Discreet {} true (scripted []) := by
    refine discreet_scripted (fun id => ?_) (by decide) rfl rfl rfl rfl (fun id h => ?_)
    · match id with
      | 0 | 1 | 2 | 3 => rfl
      | id + 4 => rfl
    · match id with
      | 2 => exact List.mem_cons_self
      | 3 => exact List.mem_cons_of_mem _ List.mem_cons_self
      | id + 4 => exact List.mem_cons_self
  exact ⟨rfl, hd, hd', convert_outline_eq rfl hd hd'⟩

/-- A piece of code with a script in it. -/
def scriptedCode (script : List Tree) : Document :=
  Document.ofRoot "code" [] [.text "a", .element "script" [] script]

/-- The text of code takes in that of the script. -/
theorem convert_shows_hidden :
    (scriptedCode [.text "x"]).root.outline = (scriptedCode []).root.outline ∧
      (Setup.mk .standard {} false).convert (scriptedCode [.text "x"]).root = .ok "\x60ax\x60" ∧
      (Setup.mk .standard {} false).convert (scriptedCode []).root = .ok "\x60a\x60" := by
  have hrule : (Setup.mk .standard {} false).ruleFor "code" = some General.code :=
    (Setup.ruleFor_standard {} "code").trans ((General.find?_eq "code").trans rfl)
  have hconvert : ∀ d : Document, d.root.data = .element "code" [] →
      d.root.children = [d.node 1, d.node 2] → (d.node 1).data = .text "a" →
      (d.node 2).data = .element "script" [] →
      (Setup.mk .standard {} false).convert d.root = .ok (Markdown.codeSpan d.root.text) := by
    intro d hroot hchildren htext hscript
    have htag : d.root.tag = "code" := by rw [Node.tag, hroot]
    have hopen : d.root.IsOpen := ⟨by rw [Node.isElement, hroot], by rw [htag]; decide⟩
    rw [convert_eq_render, maxLevels, render_element hopen, hchildren,
      renderOnto_cons_ok (render_text htext),
      renderOnto_cons_ok (render_ignored hscript (by decide)), renderOnto_nil, htag, hrule,
      Except.map]
    congr 1
  exact ⟨rfl, (hconvert (scriptedCode [.text "x"]) rfl rfl rfl rfl).trans rfl,
    (hconvert (scriptedCode []) rfl rfl rfl rfl).trans rfl⟩

end Convert

end HtmlMarkdown
