import InfraConfig.Proofs.Document.Consumption

/-! The sources of expressions. Every reader of an expression, of a list or of a loop ends with a
character that is no blank, and the readers of the parts of a template leave a suffix (`readers`):
one lemma for each reader says so of one more step, from all readers with a step less. The source of
an expression is what its reader has taken, and it is therefore trimmed (`trim_taken_readExpr?`). -/
namespace InfraConfig.Document

open InfraConfig.Text (isBlank trim trim_eq_self)

variable {s rest : List Char}

/-! ### Readers -/

/-- One part of a template is read: none at its end, literal text, an interpolation or a
directive. -/
theorem readParts?_cases {fuel : Nat} {delimiter : Delimiter} {lineStart : Bool}
    {parts : List Part} (h : readParts? (fuel + 1) delimiter lineStart s = some (parts, rest)) :
    (parts = [] ∧ rest = s) ∨
    (∃ text begun t more, t <:+ s ∧ readParts? fuel delimiter begun t = some (more, rest) ∧
      parts = prepend text more) ∨
    (∃ e inside mid after more, inside <:+ s ∧
      readExpr? fuel .manyLines inside = some (e, mid) ∧ afterBrace? mid = some after ∧
      readParts? fuel delimiter false after = some (more, rest) ∧
      parts = .interpolation (taken inside mid) :: more) ∨
    (∃ source inside after more, inside <:+ s ∧ afterDirective? fuel delimiter inside = some after ∧
      readParts? fuel delimiter false after = some (more, rest) ∧
      parts = .directive source :: more) := by
  unfold readParts? at h
  split at h
  · cases h
    exact .inl ⟨rfl, rfl⟩
  · split at h
    · cases h
    · next t _ =>
      obtain ⟨⟨more, last⟩, hmore, h⟩ := Option.bind_eq_some_iff.1 h
      cases h
      exact .inr (.inl ⟨_, _, t, more, ⟨['$', '$', '{'], rfl⟩, hmore, rfl⟩)
    · next t _ =>
      obtain ⟨⟨more, last⟩, hmore, h⟩ := Option.bind_eq_some_iff.1 h
      cases h
      exact .inr (.inl ⟨_, _, t, more, ⟨['%', '%', '{'], rfl⟩, hmore, rfl⟩)
    · next t _ =>
      obtain ⟨⟨e, mid⟩, hexpr, h⟩ := Option.bind_eq_some_iff.1 h
      obtain ⟨after, hafter, h⟩ := Option.bind_eq_some_iff.1 h
      obtain ⟨⟨more, last⟩, hmore, h⟩ := Option.bind_eq_some_iff.1 h
      cases h
      have hinside := ((skip_suffix .manyLines _).trans (skipStrip_suffix t)).trans ⟨['$', '{'], rfl⟩
      exact .inr (.inr (.inl ⟨e, _, mid, after, more, hinside, hexpr, hafter, hmore, rfl⟩))
    · next t _ =>
      dsimp only at h
      split at h
      · cases h
        exact .inl ⟨rfl, rfl⟩
      · obtain ⟨after, hafter, h⟩ := Option.bind_eq_some_iff.1 h
        obtain ⟨⟨more, last⟩, hmore, h⟩ := Option.bind_eq_some_iff.1 h
        cases h
        have hinside := ((skip_suffix .manyLines _).trans (skipStrip_suffix t)).trans
          ⟨['%', '{'], rfl⟩
        exact .inr (.inr (.inr ⟨_, _, after, more, hinside, hafter, hmore, rfl⟩))
    · next c t _ _ _ _ _ =>
      have hchar : ∀ {d : Char} {u : List Char}, u <:+ t →
          ((readParts? fuel delimiter (d = '\n') u).bind fun found =>
            some (prepend [d] found.1, found.2)) = some (parts, rest) →
          ∃ text begun t' more, t' <:+ c :: t ∧
            readParts? fuel delimiter begun t' = some (more, rest) ∧ parts = prepend text more := by
        intro d u hu h
        obtain ⟨⟨more, last⟩, hmore, h⟩ := Option.bind_eq_some_iff.1 h
        cases h
        exact ⟨_, _, u, more, hu.trans (List.suffix_cons c t), hmore, rfl⟩
      dsimp only at h
      split at h
      · obtain ⟨⟨d, u⟩, hescape, h⟩ := Option.bind_eq_some_iff.1 h
        exact .inr (.inl (hchar (readEscape?_suffix hescape) h))
      · exact .inr (.inl (hchar (List.suffix_refl t) h))

/-- What the readers of expressions leave that have a number of steps. -/
structure Readers (fuel : Nat) : Prop where
  expr {extent : Extent} {s rest : List Char} {e : Expr} :
    readExpr? fuel extent s = some (e, rest) → Takes s rest
  operations (extent : Extent) (s : List Char) :
    afterOperations fuel extent s = s ∨ Takes s (afterOperations fuel extent s)
  operation {extent : Extent} {s rest : List Char} :
    afterOperation? fuel extent s = some rest → Takes s rest
  term {s rest : List Char} {e : Expr} : readTerm? fuel s = some (e, rest) → Takes s rest
  items {s rest : List Char} {items : List Expr} :
    readItems? fuel s = some (items, rest) → Takes s rest
  members {s rest : List Char} {members : List (String × Expr)} :
    readMembers? fuel s = some (members, rest) → Takes s rest
  arguments {s rest : List Char} : afterArguments? fuel s = some rest → Takes s rest
  loopHead {s rest : List Char} : afterLoopHead? fuel s = some rest → rest <:+ s
  loopCondition {s rest : List Char} : afterLoopCondition? fuel s = some rest → rest <:+ s
  listLoop {s rest : List Char} : afterListLoop? fuel s = some rest → Takes s rest
  objectLoop {s rest : List Char} : afterObjectLoop? fuel s = some rest → Takes s rest
  parts {delimiter : Delimiter} {lineStart : Bool} {s rest : List Char} {parts : List Part} :
    readParts? fuel delimiter lineStart s = some (parts, rest) → rest <:+ s
  directive {delimiter : Delimiter} {s rest : List Char} :
    afterDirective? fuel delimiter s = some rest → Takes s rest

/-! ### One step more of each reader -/

namespace Readers

variable {fuel : Nat} {extent : Extent} {e : Expr}

theorem expr_step (h : Readers fuel) (hread : readExpr? (fuel + 1) extent s = some (e, rest)) :
    Takes s rest := by
  simp only [readExpr?, Option.bind_eq_bind, Option.bind_eq_some_iff, Option.pure_def,
    Option.some.injEq, Prod.exists] at hread
  obtain ⟨term, mid, hterm, hread⟩ := hread
  refine (h.term hterm).onward ?_
  split at hread
  · cases hread
    exact .inl rfl
  · cases hread
    exact h.operations extent mid

theorem operations_step (h : Readers fuel) (extent : Extent) (s : List Char) :
    afterOperations (fuel + 1) extent s = s ∨ Takes s (afterOperations (fuel + 1) extent s) := by
  rw [afterOperations]
  split
  · next mid hoperation =>
    exact .inr ((h.operation hoperation).skipped.onward (h.operations extent mid))
  · exact .inl rfl

theorem operation_step (h : Readers fuel) (hread : afterOperation? (fuel + 1) extent s = some rest) :
    Takes s rest := by
  unfold afterOperation? at hread
  split at hread
  · cases hread
  · exact (takes_afterAccess? hread).skipped.cons
  · next t heq =>
    -- the number of steps that is left is the one that the other readers have
    cases heq
    split at hread
    · next star hstar =>
      have hbracket := (takes_after? (by decide) hread).skipped
      exact (hbracket.behind (takes_of_skip (by decide) hstar).suffix).cons
    · obtain ⟨⟨index, mid⟩, hindex, hread⟩ := Option.bind_eq_some_iff.1 hread
      have hbracket := (takes_after? (by decide) hread).skipped
      exact (hbracket.behind (h.expr hindex).suffix).skipped.cons
  · next t heq =>
    cases heq
    obtain ⟨⟨yes, mid⟩, hyes, hread⟩ := Option.bind_eq_some_iff.1 hread
    obtain ⟨colon, hcolon, hread⟩ := Option.bind_eq_some_iff.1 hread
    obtain ⟨⟨no, last⟩, hno, hread⟩ := Option.bind_eq_some_iff.1 hread
    cases hread
    have hcolon := (takes_after? (by decide) hcolon).skipped
    have hlast := ((h.expr hno).skipped.behind hcolon.suffix).behind (h.expr hyes).suffix
    exact hlast.skipped.cons
  · next heq _ _ _ =>
    cases heq
    obtain ⟨mid, hoperator, hread⟩ := Option.bind_eq_some_iff.1 hread
    obtain ⟨⟨operand, last⟩, hoperand, hread⟩ := Option.bind_eq_some_iff.1 hread
    cases hread
    exact (h.term hoperand).skipped.behind (takes_binaryOperator hoperator).suffix

theorem term_step (h : Readers fuel) (hread : readTerm? (fuel + 1) s = some (e, rest)) :
    Takes s rest := by
  unfold readTerm? at hread
  split at hread
  · cases hread
  · next t heq =>
    cases heq
    obtain ⟨⟨parts, mid⟩, hparts, hread⟩ := Option.bind_eq_some_iff.1 hread
    obtain ⟨after, hafter, hread⟩ := Option.bind_eq_some_iff.1 hread
    have hquote := (takes_after? (by decide) hafter).behind (h.parts hparts)
    split at hread
    · cases hread
      exact hquote.cons
    · cases hread
      exact hquote.cons
  · next t heq =>
    cases heq
    split at hread
    · next head hfor =>
      obtain ⟨after, hloop, hread⟩ := Option.bind_eq_some_iff.1 hread
      cases hread
      exact ((h.listLoop hloop).behind (takes_afterKeyword? hfor).suffix).skipped.cons
    · obtain ⟨⟨items, after⟩, hitems, hread⟩ := Option.bind_eq_some_iff.1 hread
      cases hread
      exact (h.items hitems).cons
  · next t heq =>
    cases heq
    split at hread
    · next head hfor =>
      obtain ⟨after, hloop, hread⟩ := Option.bind_eq_some_iff.1 hread
      cases hread
      exact ((h.objectLoop hloop).behind (takes_afterKeyword? hfor).suffix).skipped.cons
    · obtain ⟨⟨members, after⟩, hmembers, hread⟩ := Option.bind_eq_some_iff.1 hread
      cases hread
      exact (h.members hmembers).cons
  · next t heq =>
    cases heq
    obtain ⟨⟨inner, mid⟩, hinner, hread⟩ := Option.bind_eq_some_iff.1 hread
    obtain ⟨after, hafter, hread⟩ := Option.bind_eq_some_iff.1 hread
    cases hread
    exact ((takes_after? (by decide) hafter).skipped.behind (h.expr hinner).suffix).skipped.cons
  · next t heq =>
    cases heq
    split at hread
    · next hnumber =>
      cases hread
      exact (takes_readNumber? hnumber).skipped.cons
    · obtain ⟨⟨inner, after⟩, hinner, hread⟩ := Option.bind_eq_some_iff.1 hread
      cases hread
      exact (h.term hinner).skipped.cons
  · next t heq =>
    cases heq
    obtain ⟨⟨inner, after⟩, hinner, hread⟩ := Option.bind_eq_some_iff.1 hread
    cases hread
    exact (h.term hinner).skipped.cons
  · next t heq =>
    cases heq
    split at hread
    next dedented name hmark =>
    have hname : name <:+ t := by
      split at hmark
      · cases hmark
        exact List.suffix_cons _ _
      · cases hmark
        exact List.suffix_refl _
    obtain ⟨⟨marker, line⟩, hmarker, hread⟩ := Option.bind_eq_some_iff.1 hread
    obtain ⟨inside, hinside, hread⟩ := Option.bind_eq_some_iff.1 hread
    obtain ⟨⟨parts, mid⟩, hparts, hread⟩ := Option.bind_eq_some_iff.1 hread
    obtain ⟨after, hafter, hread⟩ := Option.bind_eq_some_iff.1 hread
    cases hread
    have hlast := (takes_afterMarker? (readIdent?_eq hmarker).2 hafter).behind (h.parts hparts)
    have hline := (takes_readIdent? hmarker).suffix.trans hname
    exact ((hlast.behind (afterLineEnd?_suffix hinside)).behind hline).cons.cons
  · next heq _ _ _ _ _ _ _ =>
    cases heq
    split at hread
    · next ident mid hident =>
      have hname := takes_readIdent? hident
      split at hread
      · next arguments harguments =>
        obtain ⟨after, hafter, hread⟩ := Option.bind_eq_some_iff.1 hread
        cases hread
        have hcall : Takes ('(' :: arguments) rest := (h.arguments hafter).cons
        rw [← harguments] at hcall
        exact (hcall.behind (afterQualifiers_suffix _ _)).behind hname.suffix
      · cases hread
        exact hname
    · obtain ⟨⟨n, after⟩, hnumber, hread⟩ := Option.bind_eq_some_iff.1 hread
      cases hread
      exact takes_readNumber? hnumber

theorem items_step (h : Readers fuel) {items : List Expr}
    (hread : readItems? (fuel + 1) s = some (items, rest)) : Takes s rest := by
  unfold readItems? at hread
  split at hread
  · next hbracket =>
    cases hread
    exact takes_of_skip (by decide) hbracket
  · obtain ⟨⟨item, mid⟩, hitem, hread⟩ := Option.bind_eq_some_iff.1 hread
    have hitem := (h.expr hitem).skipped
    dsimp only at hread
    split at hread
    · next after hcomma =>
      obtain ⟨⟨more, last⟩, hmore, hread⟩ := Option.bind_eq_some_iff.1 hread
      cases hread
      exact ((h.items hmore).behind (takes_of_skip (by decide) hcomma).suffix).behind hitem.suffix
    · next after hbracket =>
      cases hread
      exact (takes_of_skip (by decide) hbracket).behind hitem.suffix
    · cases hread

theorem members_step (h : Readers fuel) {members : List (String × Expr)}
    (hread : readMembers? (fuel + 1) s = some (members, rest)) : Takes s rest := by
  unfold readMembers? at hread
  split at hread
  · next hbrace =>
    cases hread
    exact takes_of_skip (by decide) hbrace
  · obtain ⟨⟨key, mid⟩, hkey, hread⟩ := Option.bind_eq_some_iff.1 hread
    obtain ⟨sign, hsign, hread⟩ := Option.bind_eq_some_iff.1 hread
    obtain ⟨⟨value, last⟩, hvalue, hread⟩ := Option.bind_eq_some_iff.1 hread
    have hkey := (h.expr hkey).skipped
    have hvalue := (h.expr hvalue).skipped
    have hsign : Takes mid sign := by
      cases hequals : after? "=" (skip .oneLine mid) with
      | none =>
        rw [hequals] at hsign
        exact (takes_after? (by decide) hsign).skipped
      | some t =>
        rw [hequals] at hsign
        cases hsign
        exact (takes_after? (by decide) hequals).skipped
    have hmore : ∀ {name t : List Char}, ((readMembers? fuel t).bind fun found =>
        some ((String.ofList name, value) :: found.1, found.2)) = some (members, rest) →
        Takes t rest := by
      intro name t hread
      obtain ⟨⟨more, last⟩, hmore, hread⟩ := Option.bind_eq_some_iff.1 hread
      cases hread
      exact h.members hmore
    have hlast : Takes last rest := by
      dsimp only at hread
      split at hread
      · next after hcomma => exact (hmore hread).behind (takes_of_skip (by decide) hcomma).suffix
      · next after hbrace =>
        have hbrace' := hmore hread
        rw [← hbrace] at hbrace'
        exact hbrace'.skipped
      · obtain ⟨line, hline, hread⟩ := Option.bind_eq_some_iff.1 hread
        exact (((hmore hread).behind (afterLineEnd?_suffix hline)).behind
          (skipLineComment_suffix _)).skipped
    exact ((hlast.behind hvalue.suffix).behind hsign.suffix).behind hkey.suffix

theorem arguments_step (h : Readers fuel) (hread : afterArguments? (fuel + 1) s = some rest) :
    Takes s rest := by
  unfold afterArguments? at hread
  split at hread
  · next hparenthesis =>
    cases hread
    exact takes_of_skip (by decide) hparenthesis
  · obtain ⟨⟨argument, mid⟩, hargument, hread⟩ := Option.bind_eq_some_iff.1 hread
    have hargument := (h.expr hargument).skipped
    dsimp only at hread
    split at hread
    · next after hcomma =>
      exact ((h.arguments hread).behind (takes_of_skip (by decide) hcomma).suffix).behind
        hargument.suffix
    · next after hparenthesis =>
      cases hread
      exact (takes_of_skip (by decide) hparenthesis).behind hargument.suffix
    · obtain ⟨points, hpoints, hread⟩ := Option.bind_eq_some_iff.1 hread
      have hpoints := (takes_after? (by decide) hpoints).skipped
      exact ((takes_after? (by decide) hread).skipped.behind hpoints.suffix).behind hargument.suffix

theorem loopHead_step (h : Readers fuel) (hread : afterLoopHead? (fuel + 1) s = some rest) :
    rest <:+ s := by
  unfold afterLoopHead? at hread
  obtain ⟨⟨name, mid⟩, hname, hread⟩ := Option.bind_eq_some_iff.1 hread
  have hname := (takes_readIdent? hname).skipped
  have hin : ∀ {t : List Char}, ((afterKeyword? "in" t).bind fun s =>
      (readExpr? fuel .manyLines (skip .manyLines s)).bind fun found =>
        some (skip .manyLines found.2)) = some rest → rest <:+ t := by
    intro t hread
    obtain ⟨collection, hkeyword, hread⟩ := Option.bind_eq_some_iff.1 hread
    obtain ⟨⟨value, last⟩, hvalue, hread⟩ := Option.bind_eq_some_iff.1 hread
    cases hread
    exact ((skip_suffix _ _).trans (h.expr hvalue).skipped.suffix).trans
      (takes_afterKeyword? hkeyword).suffix
  dsimp only at hread
  split at hread
  · next after hcomma =>
    obtain ⟨second, hsecond, hread⟩ := Option.bind_eq_some_iff.1 hread
    simp only [Option.map_eq_some_iff, Prod.exists] at hsecond
    obtain ⟨name', mid', hname', rfl⟩ := hsecond
    have hnames := (takes_readIdent? hname').skipped.behind (takes_of_skip (by decide) hcomma).suffix
    exact (((hin hread).trans (skip_suffix _ _)).trans hnames.suffix).trans hname.suffix
  · exact ((hin hread).trans (skip_suffix _ _)).trans hname.suffix

theorem loopCondition_step (h : Readers fuel)
    (hread : afterLoopCondition? (fuel + 1) s = some rest) : rest <:+ s := by
  unfold afterLoopCondition? at hread
  split at hread
  · next inside hkeyword =>
    obtain ⟨⟨condition, last⟩, hcondition, hread⟩ := Option.bind_eq_some_iff.1 hread
    cases hread
    have hcondition := (h.expr hcondition).skipped.behind (takes_afterKeyword? hkeyword).suffix
    exact (skip_suffix _ _).trans hcondition.skipped.suffix
  · cases hread
    exact skip_suffix _ _

theorem listLoop_step (h : Readers fuel) (hread : afterListLoop? (fuel + 1) s = some rest) :
    Takes s rest := by
  unfold afterListLoop? at hread
  obtain ⟨head, hhead, hread⟩ := Option.bind_eq_some_iff.1 hread
  obtain ⟨colon, hcolon, hread⟩ := Option.bind_eq_some_iff.1 hread
  obtain ⟨⟨item, mid⟩, hitem, hread⟩ := Option.bind_eq_some_iff.1 hread
  obtain ⟨last, hlast, hread⟩ := Option.bind_eq_some_iff.1 hread
  have hcolon := (takes_after? (by decide) hcolon).behind (h.loopHead hhead)
  have hitem := (h.expr hitem).skipped.behind hcolon.suffix
  exact ((takes_after? (by decide) hread).behind (h.loopCondition hlast)).behind hitem.suffix

theorem objectLoop_step (h : Readers fuel) (hread : afterObjectLoop? (fuel + 1) s = some rest) :
    Takes s rest := by
  unfold afterObjectLoop? at hread
  obtain ⟨head, hhead, hread⟩ := Option.bind_eq_some_iff.1 hread
  obtain ⟨colon, hcolon, hread⟩ := Option.bind_eq_some_iff.1 hread
  obtain ⟨⟨key, mid⟩, hkey, hread⟩ := Option.bind_eq_some_iff.1 hread
  obtain ⟨arrow, harrow, hread⟩ := Option.bind_eq_some_iff.1 hread
  obtain ⟨⟨value, after⟩, hvalue, hread⟩ := Option.bind_eq_some_iff.1 hread
  obtain ⟨last, hlast, hread⟩ := Option.bind_eq_some_iff.1 hread
  have hcolon := (takes_after? (by decide) hcolon).behind (h.loopHead hhead)
  have hkey := (h.expr hkey).skipped.behind hcolon.suffix
  have harrow := (takes_after? (by decide) harrow).skipped.behind hkey.suffix
  have hvalue := (h.expr hvalue).skipped.behind harrow.suffix
  have hpoints : (after? "..." (skip .manyLines after)).getD (skip .manyLines after) <:+ after := by
    cases hafter : after? "..." (skip .manyLines after) with
    | none => exact skip_suffix _ _
    | some points => exact (takes_after? (by decide) hafter).skipped.suffix
  have hlast := ((h.loopCondition hlast).trans hpoints).trans hvalue.suffix
  exact (takes_after? (by decide) hread).behind hlast

theorem parts_step (h : Readers fuel) {delimiter : Delimiter} {lineStart : Bool}
    {parts : List Part} (hread : readParts? (fuel + 1) delimiter lineStart s = some (parts, rest)) :
    rest <:+ s := by
  obtain ⟨-, rfl⟩ | ⟨text, begun, t, more, ht, hmore, -⟩ |
    ⟨e, inside, mid, after, more, hinside, hread, hafter, hmore, -⟩ |
    ⟨source, inside, after, more, hinside, hafter, hmore, -⟩ := readParts?_cases hread
  · exact List.suffix_refl _
  · exact (h.parts hmore).trans ht
  · have hexpr := (h.expr hread).suffix.trans hinside
    exact ((h.parts hmore).trans (takes_afterBrace? hafter).suffix).trans hexpr
  · exact ((h.parts hmore).trans (h.directive hafter).suffix).trans hinside

theorem directive_step (h : Readers fuel) {delimiter : Delimiter}
    (hread : afterDirective? (fuel + 1) delimiter s = some rest) : Takes s rest := by
  unfold afterDirective? at hread
  split at hread
  · next inside hkeyword =>
    obtain ⟨⟨condition, mid⟩, hcondition, hread⟩ := Option.bind_eq_some_iff.1 hread
    obtain ⟨body, hbody, hread⟩ := Option.bind_eq_some_iff.1 hread
    obtain ⟨⟨parts, last⟩, hparts, hread⟩ := Option.bind_eq_some_iff.1 hread
    have hcondition := (h.expr hcondition).skipped.behind (takes_afterKeyword? hkeyword).suffix
    have hbody := (takes_afterBrace? hbody).behind hcondition.suffix
    have hparts := (h.parts hparts).trans hbody.suffix
    dsimp only at hread
    split at hread
    · next other helse =>
      obtain ⟨⟨parts', last'⟩, hparts', hread⟩ := Option.bind_eq_some_iff.1 hread
      have helse := (h.parts hparts').trans (takes_afterBranch? helse).suffix
      exact ((takes_afterBranch? hread).behind helse).behind hparts
    · exact (takes_afterBranch? hread).behind hparts
  · obtain ⟨inside, hkeyword, hread⟩ := Option.bind_eq_some_iff.1 hread
    obtain ⟨head, hhead, hread⟩ := Option.bind_eq_some_iff.1 hread
    obtain ⟨body, hbody, hread⟩ := Option.bind_eq_some_iff.1 hread
    obtain ⟨⟨parts, last⟩, hparts, hread⟩ := Option.bind_eq_some_iff.1 hread
    have hhead := (h.loopHead hhead).trans (takes_afterKeyword? hkeyword).suffix
    have hparts := (h.parts hparts).trans (takes_afterBrace? hbody).suffix
    exact (takes_afterBranch? hread).behind (hparts.trans hhead)

end Readers

/-- Whatever the number of steps, the readers take what they read. -/
theorem readers (fuel : Nat) : Readers fuel := by
  induction fuel with
  | zero =>
    constructor
    case operations => exact fun _ _ => .inl rfl
    all_goals
      intros
      contradiction
  | succ fuel ih =>
    exact ⟨ih.expr_step, ih.operations_step, ih.operation_step, ih.term_step, ih.items_step,
      ih.members_step, ih.arguments_step, ih.loopHead_step, ih.loopCondition_step, ih.listLoop_step,
      ih.objectLoop_step, ih.parts_step, ih.directive_step⟩

/-! ### Sources -/

theorem taken_append (front rest : List Char) : taken (front ++ rest) rest = front := by
  simp [taken]

/-- A term does not start with a blank. -/
theorem isBlank_of_readTerm? {fuel : Nat} {c : Char} {e : Expr}
    (h : readTerm? fuel s = some (e, rest)) (hc : s.head? = some c) : isBlank c = false := by
  unfold readTerm? at h
  split at h
  -- the marks that terms start with
  any_goals
    cases hc
    decide
  · cases h
  · split at h
    · next ident mid hident =>
      obtain ⟨rfl, hsolid⟩ := readIdent?_eq hident
      exact hsolid.head hc
    · obtain ⟨⟨n, mid⟩, hnumber, -⟩ := Option.bind_eq_some_iff.1 h
      obtain ⟨⟨numeral, after⟩, hnumeral, -⟩ := Option.bind_eq_some_iff.1 hnumber
      obtain ⟨⟨whole, fraction⟩, hwhole, -⟩ := Option.bind_eq_some_iff.1 hnumeral
      obtain ⟨rfl, hsolid⟩ := readDigits?_eq hwhole
      exact hsolid.head hc

/-- The source of an expression is trimmed, and it is not empty. -/
theorem trim_taken_readExpr? {fuel : Nat} {extent : Extent} {e : Expr}
    (h : readExpr? fuel extent s = some (e, rest)) :
    trim (taken s rest) = taken s rest ∧ taken s rest ≠ [] := by
  obtain ⟨front, last, hlast, rfl⟩ := (readers fuel).expr h
  have htaken : taken (front ++ last :: rest) rest = front ++ [last] := by
    rw [List.append_cons, taken_append]
  rw [htaken]
  refine ⟨trim_eq_self ?_ ?_, by simp⟩
  · intro c hc
    cases fuel with
    | zero => cases h
    | succ fuel =>
      obtain ⟨⟨term, mid⟩, hterm, -⟩ := Option.bind_eq_some_iff.1 h
      apply isBlank_of_readTerm? hterm
      rw [List.append_cons, List.head?_append, hc]
      rfl
  · intro c hc
    rw [List.getLast?_concat] at hc
    cases hc
    exact hlast

theorem interpolation_mem_prepend {text source : List Char} {parts : List Part} :
    .interpolation source ∈ prepend text parts ↔ .interpolation source ∈ parts := by
  unfold prepend
  split <;> simp

/-- The source of the expression in an interpolation is trimmed, and it is not empty. -/
theorem trim_of_interpolation_mem {fuel : Nat} {delimiter : Delimiter} {lineStart : Bool}
    {parts : List Part} {source : List Char}
    (h : readParts? fuel delimiter lineStart s = some (parts, rest))
    (hmem : .interpolation source ∈ parts) : trim source = source ∧ source ≠ [] := by
  induction fuel generalizing lineStart s rest parts with
  | zero => cases h
  | succ fuel ih =>
    obtain ⟨rfl, -⟩ | ⟨text, begun, t, more, -, hmore, rfl⟩ |
      ⟨e, inside, mid, after, more, -, hexpr, -, hmore, rfl⟩ |
      ⟨directive, inside, after, more, -, -, hmore, rfl⟩ := readParts?_cases h
    · cases hmem
    · exact ih hmore (interpolation_mem_prepend.1 hmem)
    · rcases List.mem_cons.1 hmem with heq | hmem
      · cases heq
        exact trim_taken_readExpr? hexpr
      · exact ih hmore hmem
    · exact ih hmore (List.mem_of_ne_of_mem (by simp) hmem)

end InfraConfig.Document
