import TypestateBuilders.Proofs.CodeLine
import TypestateBuilders.Proofs.Outcome
import TypestateBuilders.Template.Catalogue

/-!
# Templates keep documentation apart from code

What a template refers to is code, a doc comment, or declarations that carry their doc comments
with them (`Content`). Two contexts agree when they differ in doc comments at most
(`Content.Agree`, `Scope.Agree`).

A template separates documentation from code when it goes through a doc comment only to lay out
each of its lines on a line of its own, behind an indent, and when nothing else in it refers to a
doc comment (`nodesSeparate`). This is decided by looking at the template, and all templates of the
Rust target are of this kind (`nodesSeparate_template`). They make the same lines of code in
contexts that agree (`Node.alike_lines`, `alike_nodesLines`).
-/

set_option autoImplicit false
set_option relaxedAutoImplicit false

namespace TypestateBuilders.Template

open CodeLine Outcome

/-! ### What templates refer to -/

/-- What a template refers to. -/
inductive Content
  /-- Something that is no documentation. -/
  | code
  /-- The lines of a doc comment. -/
  | comment
  /-- A declaration with its doc comment. -/
  | declaration
  /-- Several declarations. -/
  | declarations
  deriving DecidableEq

/-- The name under which a declaration holds its doc comment. -/
def commentName : String :=
  "doc_lines"

/-- What a variable refers to. -/
def Content.ofName (name : String) : Content :=
  if name = commentName then .comment
  else if name ∈ ["field", "ctor", "setter"] then .declaration
  else if name ∈ ["fields", "constructors", "setters"] then .declarations
  else .code

/-- What a member of something refers to: only declarations have doc comments as members. -/
def Content.member (content : Content) (name : String) : Content :=
  if content = .declaration ∧ name = commentName then .comment else .code

/-- What a reference refers to. -/
def Reference.content : Reference → Content
  | .named name => .ofName name
  | .memberOf holder name => (Content.ofName holder).member name

/-! ### Contexts that agree -/

/-- Whether a value holds the lines of a doc comment. -/
def IsComment (value : Value) : Prop :=
  ∃ lines : List String, value = .ofTexts lines ∧ ∀ line ∈ lines, IsDocLine line

/-- Two members of a name that are equal, or that are doc comments. -/
def AgreeAt (name : String) (first second : Value) : Prop :=
  if name = commentName then IsComment first ∧ IsComment second else first = second

/-- Two declarations that differ in their doc comments at most. -/
def AgreeDeclaration (first second : Value) : Prop :=
  ∀ name, Option.Rel (AgreeAt name) (first.member? name) (second.member? name)

/-- Two values of some content that differ in doc comments at most. -/
def Content.Agree : Content → Value → Value → Prop
  | .code, first, second => first = second
  | .comment, first, second => IsComment first ∧ IsComment second
  | .declaration, first, second => AgreeDeclaration first second
  | .declarations, first, second =>
    ∃ ones others, first = .list ones ∧ second = .list others ∧
      List.Forall₂ AgreeDeclaration ones others

/-- Two scopes that hold the same variables with values that differ in doc comments at most. -/
def Scope.Agree (first second : Scope) : Prop :=
  ∀ name, Option.Rel (Content.ofName name).Agree (first.lookup name) (second.lookup name)

theorem Scope.agree_nil : Scope.Agree [] [] :=
  fun _ ↦ Option.Rel.none

theorem Scope.Agree.cons {first second : Scope} {name : String} {one other : Value}
    (hvalue : (Content.ofName name).Agree one other) (h : Scope.Agree first second) :
    Scope.Agree ((name, one) :: first) ((name, other) :: second) := by
  intro wanted
  by_cases hname : wanted = name
  · subst hname
    rw [List.lookup_cons_self, List.lookup_cons_self]
    exact Option.Rel.some hvalue
  · have hdiffers : (wanted == name) = false := beq_eq_false_iff_ne.mpr hname
    rw [List.lookup_cons, List.lookup_cons, hdiffers]
    exact h wanted

/-- A declaration may be documented in one way or another. -/
theorem agreeDeclaration_object (before after : List (String × Value)) {lines others : List String}
    (hbefore : ∀ member ∈ before, member.1 ≠ commentName) (hlines : ∀ line ∈ lines, IsDocLine line)
    (hothers : ∀ line ∈ others, IsDocLine line) :
    AgreeDeclaration (.object (before ++ (commentName, .ofTexts lines) :: after))
      (.object (before ++ (commentName, .ofTexts others) :: after)) := by
  intro name
  have hequal : name ≠ commentName → ∀ found : Option Value,
      Option.Rel (AgreeAt name) found found := by
    rintro hname (_ | value)
    · exact Option.Rel.none
    · refine Option.Rel.some ?_
      rw [AgreeAt, if_neg hname]
  show Option.Rel _ (Keyed.get? name _) (Keyed.get? name _)
  induction before with
  | nil =>
    rw [List.nil_append, List.nil_append, Keyed.get?, Keyed.get?]
    by_cases hname : commentName = name
    · rw [if_pos hname, if_pos hname]
      refine Option.Rel.some ?_
      rw [AgreeAt, if_pos hname.symm]
      exact ⟨⟨lines, rfl, hlines⟩, others, rfl, hothers⟩
    · rw [if_neg hname, if_neg hname]
      exact hequal (fun h ↦ hname h.symm) _
  | cons member rest ih =>
    rw [List.cons_append, List.cons_append, Keyed.get?, Keyed.get?]
    by_cases hname : member.1 = name
    · rw [if_pos hname, if_pos hname]
      exact hequal (hname ▸ hbefore member (List.mem_cons_self ..)) _
    · rw [if_neg hname, if_neg hname]
      exact ih fun other hother ↦ hbefore other (List.mem_cons_of_mem _ hother)

/-- A variable that is no documentation is the same in both contexts. -/
theorem Scope.Agree.cons_code {first second : Scope} {name : String} {value : Value}
    (hname : Content.ofName name = .code) (h : Scope.Agree first second) :
    Scope.Agree ((name, value) :: first) ((name, value) :: second) := by
  refine Scope.Agree.cons ?_ h
  rw [hname]
  exact rfl

/-- A variable may hold one doc comment or another. -/
theorem Scope.Agree.cons_comment {first second : Scope} {name : String} {lines others : List String}
    (hname : Content.ofName name = .comment) (hlines : ∀ line ∈ lines, IsDocLine line)
    (hothers : ∀ line ∈ others, IsDocLine line) (h : Scope.Agree first second) :
    Scope.Agree ((name, .ofTexts lines) :: first) ((name, .ofTexts others) :: second) := by
  refine Scope.Agree.cons ?_ h
  rw [hname]
  exact ⟨⟨lines, rfl, hlines⟩, others, rfl, hothers⟩

/-- A variable may hold declarations that are documented in one way or another. -/
theorem Scope.Agree.cons_declarations {α : Type} {value : α → Value} {first second : Scope}
    {name : String} {ones others : List α} (hname : Content.ofName name = .declarations)
    (hall : List.Forall₂ (fun one other ↦ AgreeDeclaration (value one) (value other)) ones others)
    (h : Scope.Agree first second) :
    Scope.Agree ((name, .list (ones.map value)) :: first)
      ((name, .list (others.map value)) :: second) := by
  refine Scope.Agree.cons ?_ h
  rw [hname]
  refine ⟨ones.map value, others.map value, rfl, rfl, ?_⟩
  rw [List.forall₂_map_left_iff, List.forall₂_map_right_iff]
  exact hall

/-! ### References -/

theorem alike_require {agree : Value → Value → Prop} {name : String} {first second : Option Value}
    (h : Option.Rel agree first second) :
    Alike Eq agree (require name first) (require name second) := by
  rcases h with hvalue | _
  · exact Alike.answer hvalue
  · exact Alike.failure rfl

theorem rel_code (found : Option Value) : Option.Rel Content.code.Agree found found := by
  rcases found with _ | value
  · exact Option.Rel.none
  · exact Option.Rel.some rfl

/-- What is no declaration has no member that is a doc comment. -/
theorem rel_member? {content : Content} {first second : Value} (name : String)
    (h : content.Agree first second) :
    Option.Rel (content.member name).Agree (first.member? name) (second.member? name) := by
  cases content with
  | code =>
    obtain rfl : first = second := h
    exact rel_code _
  | comment =>
    obtain ⟨⟨lines, rfl, -⟩, others, rfl, -⟩ := h
    exact Option.Rel.none
  | declaration =>
    have hmember := h name
    by_cases hname : name = commentName
    · have hcontent : Content.member .declaration name = .comment := if_pos ⟨rfl, hname⟩
      have hagree : AgreeAt name = Content.comment.Agree := by
        ext one other
        simp [AgreeAt, Content.Agree, hname]
      rwa [hcontent, ← hagree]
    · have hcontent : Content.member .declaration name = .code := if_neg fun h ↦ hname h.2
      have hagree : AgreeAt name = Content.code.Agree := by
        ext one other
        simp [AgreeAt, Content.Agree, hname]
      rwa [hcontent, ← hagree]
  | declarations =>
    obtain ⟨ones, others, rfl, rfl, -⟩ := h
    exact Option.Rel.none

theorem alike_resolve {first second : Scope} (h : Scope.Agree first second)
    (reference : Reference) :
    Alike Eq reference.content.Agree (first.resolve reference) (second.resolve reference) := by
  cases reference with
  | named name => exact alike_require (h name)
  | memberOf holder name =>
    refine (alike_require (h holder)).bind fun one other hholder ↦ ?_
    exact alike_require (rel_member? name hholder)

theorem resolve_eq {first second : Scope} (h : Scope.Agree first second) {reference : Reference}
    (hcode : reference.content = .code) : first.resolve reference = second.resolve reference := by
  have halike := alike_resolve h reference
  rw [hcode] at halike
  exact halike.eq

theorem elements_eq {first second : Scope} (h : Scope.Agree first second) {reference : Reference}
    (hcode : reference.content = .code) : first.elements reference = second.elements reference := by
  rw [Scope.elements, Scope.elements, resolve_eq h hcode]

/-! ### Templates that separate -/

/-- Whether a part of a line holds no documentation. -/
def Piece.isCode : Piece → Bool
  | .text _ => true
  | .hole reference | .joined _ reference => reference.content = .code

/-- Whether a part of a template lays out a doc comment line by line, each behind an indent. -/
def Node.laysOutComment : Node → Bool
  | .each false name source [.line [.text indent, .hole (.named shown)]] =>
    source.content = .comment && shown = name && isIndent indent
  | _ => false

/-- Whether what is gone through and what is known of each of its elements fit together. -/
def Content.hasElements (source element : Content) : Bool :=
  (source = .code && element = .code) || (source = .declarations && element = .declaration)

mutual

/-- Whether a part of a template keeps documentation apart from code. -/
def Node.separates : Node → Bool
  | .line pieces => pieces.all Piece.isCode
  | .each spaced name source body =>
    (Node.each spaced name source body).laysOutComment ||
      (source.content.hasElements (.ofName name) && nodesSeparate body)
  | .choose condition whenTrue whenFalse =>
    condition.content = .code && nodesSeparate whenTrue && nodesSeparate whenFalse

/-- Whether several parts of a template keep documentation apart from code. -/
def nodesSeparate : List Node → Bool
  | [] => true
  | node :: rest => node.separates && nodesSeparate rest

end

/-! ### What is laid out -/

theorem fill_eq {first second : Scope} (h : Scope.Agree first second) {piece : Piece}
    (hcode : piece.isCode = true) : piece.fill first = piece.fill second := by
  cases piece with
  | text characters => rfl
  | hole reference => rw [Piece.fill, Piece.fill, resolve_eq h (of_decide_eq_true hcode)]
  | joined separator reference =>
    rw [Piece.fill, Piece.fill, elements_eq h (of_decide_eq_true hcode)]

/-- The line that is laid out for one line of a doc comment. -/
theorem nodesLines_indented (scope : Scope) (name indent text : String) :
    nodesLines ((name, .text text) :: scope) [.line [.text indent, .hole (.named name)]] =
      .ok [indent ++ text] := by
  have hresolve : Scope.resolve ((name, .text text) :: scope) (.named name) = .ok (.text text) := by
    rw [Scope.resolve, List.lookup_cons_self]
    rfl
  simp [nodesLines, Node.lines, Piece.fill, hresolve, Except.map, pure, Except.pure, bind,
    Except.bind]

/-- A doc comment is laid out line by line, and none of what is laid out is code. -/
theorem lines_of_isComment {scope : Scope} {source : Reference} {value : Value}
    (hsource : scope.resolve source = .ok value) (hvalue : IsComment value) (name : String)
    {indent : String} (hindent : isIndent indent = true) :
    ∃ lines, (Node.each false name source [.line [.text indent, .hole (.named name)]]).lines scope =
      .ok lines ∧ codeOf lines = [] := by
  obtain ⟨texts, rfl, htexts⟩ := hvalue
  have hblocks : (texts.map Value.text).mapM (fun element ↦
      nodesLines ((name, element) :: scope) [.line [.text indent, .hole (.named name)]]) =
      .ok (texts.map fun text ↦ [indent ++ text]) := by
    rw [List.mapM_map, mapM_eq_ok, List.forall₂_map_right_iff, List.forall₂_same]
    exact fun text _ ↦ nodesLines_indented scope name indent text
  refine ⟨[].intercalate (texts.map fun text ↦ [indent ++ text]), ?_, ?_⟩
  · rw [Node.lines, Scope.elements, hsource]
    exact congrArg (fun blocks ↦ blocks >>= fun blocks ↦ .ok ([].intercalate blocks)) hblocks
  · refine codeOf_intercalate_of_no_code fun block hblock ↦ ?_
    obtain ⟨text, htext, rfl⟩ := List.mem_map.mp hblock
    rw [codeOf_cons, codeLines_indented hindent (htexts text htext)]
    rfl

theorem alike_comment {first second : Scope} (h : Scope.Agree first second) {node : Node}
    (hnode : node.laysOutComment = true) :
    Alike Eq (fun lines others ↦ codeOf lines = codeOf others) (node.lines first)
      (node.lines second) := by
  unfold Node.laysOutComment at hnode
  split at hnode
  · rename_i name source indent shown
    rw [Bool.and_eq_true, Bool.and_eq_true, decide_eq_true_iff, decide_eq_true_iff] at hnode
    obtain ⟨⟨hcontent, rfl⟩, hindent⟩ := hnode
    have halike := alike_resolve h source
    rw [hcontent] at halike
    generalize hone : first.resolve source = one, hother : second.resolve source = other at halike
    rcases halike with hcomments | rfl
    · obtain ⟨lines, hlines, hnone⟩ := lines_of_isComment hone hcomments.1 shown hindent
      obtain ⟨lines', hlines', hnone'⟩ := lines_of_isComment hother hcomments.2 shown hindent
      rw [hlines, hlines']
      exact Alike.answer (hnone.trans hnone'.symm)
    · rw [Node.lines, Node.lines, Scope.elements, Scope.elements, hone, hother]
      exact Alike.failure rfl
  · simp at hnode

theorem agree_of_hasElements {source element : Content} (h : source.hasElements element = true) :
    (source = .code ∧ element = .code) ∨ (source = .declarations ∧ element = .declaration) := by
  simpa [Content.hasElements] using h

/-- What is gone through has elements that agree where contexts agree. -/
theorem alike_elements {first second : Scope} (h : Scope.Agree first second) {reference : Reference}
    {element : Content} (hsource : reference.content.hasElements element = true) :
    Alike Eq (List.Forall₂ element.Agree) (first.elements reference)
      (second.elements reference) := by
  rcases agree_of_hasElements hsource with ⟨hcode, rfl⟩ | ⟨hdeclarations, rfl⟩
  · rw [elements_eq h hcode]
    exact Alike.of_eq (fun _ ↦ rfl) fun _ ↦ List.forall₂_same.mpr fun _ _ ↦ rfl
  · have halike := alike_resolve h reference
    rw [hdeclarations] at halike
    refine halike.bind fun _ _ hvalues ↦ ?_
    obtain ⟨ones, others, rfl, rfl, hall⟩ := hvalues
    exact Alike.answer hall

mutual

/-- A part of a template that keeps documentation apart from code lays out the same code where
contexts differ in doc comments only. -/
theorem Node.alike_lines {first second : Scope} (h : Scope.Agree first second) (node : Node)
    (hnode : node.separates = true) :
    Alike Eq (fun lines others ↦ codeOf lines = codeOf others) (node.lines first)
      (node.lines second) := by
  match node with
  | .line pieces =>
    rw [Node.separates, List.all_eq_true] at hnode
    have hpieces : Alike Eq (List.Forall₂ Eq) (pieces.mapM (Piece.fill first))
        (pieces.mapM (Piece.fill second)) := by
      have hsame : List.Forall₂ (fun piece other ↦ piece = other ∧ piece.isCode = true)
          pieces pieces := List.forall₂_same.mpr fun piece hpiece ↦ ⟨rfl, hnode piece hpiece⟩
      refine Alike.mapM hsame ?_
      rintro piece _ ⟨rfl, hcode⟩
      rw [fill_eq h hcode]
      exact Alike.refl _
    rw [Node.lines, Node.lines]
    refine hpieces.bind fun texts others htexts ↦ Alike.answer ?_
    rw [List.forall₂_eq_eq_eq] at htexts
    rw [htexts]
  | .each spaced name source body =>
    rw [Node.separates, Bool.or_eq_true, Bool.and_eq_true] at hnode
    rcases hnode with hcomment | ⟨hsource, hbody⟩
    · exact alike_comment h hcomment
    · -- The scopes agree again once they are extended by elements that agree.
      rw [Node.lines, Node.lines]
      refine (alike_elements h hsource).bind fun elements others helements ↦ ?_
      refine (Alike.mapM helements fun element other helement ↦
        alike_nodesLines (h.cons helement) body hbody).bind fun blocks blocks' hblocks ↦ ?_
      refine Alike.answer ?_
      have hcode : blocks.map codeOf = blocks'.map codeOf := by
        rw [← List.forall₂_eq_eq_eq, List.forall₂_map_left_iff, List.forall₂_map_right_iff]
        exact hblocks
      rw [codeOf_intercalate, codeOf_intercalate, hcode]
  | .choose condition whenTrue whenFalse =>
    rw [Node.separates, Bool.and_eq_true, Bool.and_eq_true, decide_eq_true_iff] at hnode
    obtain ⟨⟨hcondition, htrue⟩, hfalse⟩ := hnode
    rw [Node.lines, Node.lines, resolve_eq h hcondition]
    rcases second.resolve condition with reason | value
    · exact Alike.failure rfl
    · show Alike Eq _ (if value.isTrue = true then nodesLines first whenTrue
          else nodesLines first whenFalse) (if value.isTrue = true then nodesLines second whenTrue
          else nodesLines second whenFalse)
      by_cases hvalue : value.isTrue = true
      · rw [if_pos hvalue, if_pos hvalue]
        exact alike_nodesLines h whenTrue htrue
      · rw [if_neg hvalue, if_neg hvalue]
        exact alike_nodesLines h whenFalse hfalse

/-- Several parts of a template keep documentation apart from code if each of them does. -/
theorem alike_nodesLines {first second : Scope} (h : Scope.Agree first second) (nodes : List Node)
    (hnodes : nodesSeparate nodes = true) :
    Alike Eq (fun lines others ↦ codeOf lines = codeOf others) (nodesLines first nodes)
      (nodesLines second nodes) := by
  match nodes with
  | [] => exact Alike.answer rfl
  | node :: rest =>
    rw [nodesSeparate, Bool.and_eq_true] at hnodes
    rw [nodesLines, nodesLines]
    refine (Node.alike_lines h node hnodes.1).bind fun _ _ hfirst ↦ ?_
    refine (alike_nodesLines h rest hnodes.2).bind fun _ _ hothers ↦ ?_
    refine Alike.answer ?_
    rw [codeOf_append, codeOf_append, hfirst, hothers]

end

/-- All templates of the Rust target keep documentation apart from code. -/
theorem nodesSeparate_template (name : Name) : nodesSeparate name.template = true := by
  cases name <;> decide

end TypestateBuilders.Template
