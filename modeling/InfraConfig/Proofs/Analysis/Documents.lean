import InfraConfig.Analysis.Configuration
import InfraConfig.Proofs.Analysis.Freshness
import Mathlib.Data.List.Forall2

/-! Documents on their way to the analysis. An analyzer takes the declarations of a document while
it passes over blocks that it does not know; a reader of documents takes those of every block; and a
configuration unit takes those of several documents and puts others behind them. All come to the same
declarations, or to the same first fault (`analyses_agree`), whatever kinds of blocks are mixed and
in whatever order a unit is put together. -/
namespace InfraConfig

open Document (Fault)

/-! ### Lists read up to the first fault -/

section Read
variable {α β ε : Type} {f : α → Except ε β}

theorem exists_of_bind_eq_ok {result : Except ε α} {next : α → Except ε β} {b : β}
    (h : result >>= next = .ok b) : ∃ a, result = .ok a ∧ next a = .ok b := by
  cases result with
  | error e => cases h
  | ok a => exact ⟨a, rfl, h⟩

/-- Of a list that is read, each item is. -/
theorem forall₂_of_mapM_eq_ok {items : List α} {results : List β} (h : items.mapM f = .ok results) :
    List.Forall₂ (fun item result => f item = .ok result) items results := by
  induction items generalizing results with
  | nil =>
    cases h
    exact .nil
  | cons item rest ih =>
    rw [List.mapM_cons] at h
    obtain ⟨result, hitem, h⟩ := exists_of_bind_eq_ok h
    obtain ⟨found, hrest, h⟩ := exists_of_bind_eq_ok h
    cases h
    exact .cons hitem (ih hrest)

/-- A list that is not read stops at its first item that is not. -/
theorem exists_of_mapM_eq_error {items : List α} {fault : ε} (h : items.mapM f = .error fault) :
    ∃ before item after, items = before ++ item :: after ∧
      (∀ other ∈ before, (f other).isOk = true) ∧ f item = .error fault := by
  induction items with
  | nil => cases h
  | cons item rest ih =>
    rw [List.mapM_cons] at h
    cases hitem : f item with
    | error e =>
      rw [hitem] at h
      cases h
      exact ⟨[], item, rest, rfl, by simp, hitem⟩
    | ok result =>
      rw [hitem] at h
      cases hrest : rest.mapM f with
      | ok found =>
        rw [hrest] at h
        cases h
      | error e =>
        rw [hrest] at h
        cases h
        obtain ⟨before, other, after, rfl, hbefore, hother⟩ := ih hrest
        refine ⟨item :: before, other, after, rfl, fun earlier hearlier => ?_, hother⟩
        rcases List.mem_cons.1 hearlier with rfl | hmem
        · rw [hitem]
          rfl
        · exact hbefore earlier hmem

end Read

/-! ### One document -/

namespace Analyzer

/-- Passing over the blocks that are not known leaves out no declaration and no fault. -/
theorem value_declarationsOf (blocks : List Document.Block) :
    (declarationsOf blocks).value = (blocks.mapM Document.Block.declarations).map List.flatten := by
  induction blocks with
  | nil => rfl
  | cons block rest ih =>
    rw [declarationsOf, List.mapM_cons]
    split
    · next hunknown =>
      have hnothing : block.declarations = .ok [] := by
        rw [Document.Block.declarations, Option.isNone_iff_eq_none.1 hunknown]
      rw [hnothing, Traced.value_bind, ih]
      cases rest.mapM Document.Block.declarations <;> rfl
    · cases block.declarations with
      | error fault => rfl
      | ok declarations =>
        show (declarationsOf rest).value.map (declarations ++ ·) = _
        rw [ih]
        cases rest.mapM Document.Block.declarations <;> rfl

/-- The analysis of a document is that of what it declares. -/
theorem value_analyzeDocument_eq (a : Analyzer) (now : Nat) (text : String) :
    (a.analyzeDocument now text).value =
      match Document.declarations text with
      | .error fault => (.error fault, a)
      | .ok declarations =>
        (.ok (a.analyze now declarations).value.1, (a.analyze now declarations).value.2) := by
  rw [value_analyzeDocument, Document.declarations]
  cases Document.blocks text with
  | error fault => rfl
  | ok blocks =>
    simp only [value_declarationsOf]
    cases hread : blocks.mapM Document.Block.declarations with
    | error fault => simp [bind, Except.bind, Except.map, hread]
    | ok found => simp [bind, Except.bind, pure, Except.pure, Except.map, hread]

end Analyzer

/-! ### Units -/

/-- What is done to put a unit together. -/
inductive ConfigurationStep where
  | addDocument (text : String)
  | addDeclaration (d : Declaration)
  /-- Writes an attribute to the declaration that was added last. -/
  | writeAttribute (key : String) (value : Value)

namespace ConfigurationStep

/-- The documents that are added, in order. -/
def documents : List ConfigurationStep → List String
  | [] => []
  | .addDocument text :: rest => text :: documents rest
  | _ :: rest => documents rest

/-- A declaration with the attributes that are written before the next one is added. -/
def completed (d : Declaration) : List ConfigurationStep → Declaration
  | [] => d
  | .addDocument _ :: rest => completed d rest
  | .addDeclaration _ :: _ => d
  | .writeAttribute key value :: rest => completed (d.withAttribute key value) rest

/-- The declarations that are added, in order. -/
def declarations : List ConfigurationStep → List Declaration
  | [] => []
  | .addDeclaration d :: rest => completed d rest :: declarations rest
  | _ :: rest => declarations rest

end ConfigurationStep

namespace Configuration

/-- The unit after a step. -/
def step (c : Configuration) : ConfigurationStep → Configuration
  | .addDocument text => c.addDocument text
  | .addDeclaration d => c.add d
  | .writeAttribute key value => c.withAttribute key value

/-- The unit that steps put together. -/
def ofSteps (settings : Settings) (steps : List ConfigurationStep) : Configuration :=
  steps.foldl step (.empty settings)

variable (c : Configuration) (steps : List ConfigurationStep)

theorem settings_step (s : ConfigurationStep) : (c.step s).settings = c.settings := by
  cases s with
  | writeAttribute key value =>
    rw [step, withAttribute]
    split <;> rfl
  | _ => rfl

theorem documents_step (s : ConfigurationStep) :
    (c.step s).documents = c.documents ++ ConfigurationStep.documents [s] := by
  cases s with
  | addDocument text => rfl
  | addDeclaration d => exact (List.append_nil _).symm
  | writeAttribute key value =>
    rw [step, withAttribute]
    split <;> exact (List.append_nil _).symm

theorem settings_foldl_step : (steps.foldl step c).settings = c.settings := by
  induction steps generalizing c with
  | nil => rfl
  | cons s rest ih => exact (ih (c.step s)).trans (c.settings_step s)

theorem documents_foldl_step :
    (steps.foldl step c).documents = c.documents ++ ConfigurationStep.documents steps := by
  induction steps generalizing c with
  | nil => exact (List.append_nil _).symm
  | cons s rest ih =>
    rw [List.foldl_cons, ih, documents_step, List.append_assoc]
    cases s <;> rfl

/-- Steps go on with the declaration that was added last, and add others behind it. -/
theorem added_foldl_step_of_concat {earlier : List Declaration} {last : Declaration}
    (h : c.added = earlier ++ [last]) :
    (steps.foldl step c).added =
      earlier ++ ConfigurationStep.completed last steps :: ConfigurationStep.declarations steps := by
  induction steps generalizing c earlier last with
  | nil => exact h
  | cons s rest ih =>
    rw [List.foldl_cons]
    cases s with
    | addDocument text => exact ih (c.addDocument text) h
    | addDeclaration d =>
      have hadded : (c.add d).added = (earlier ++ [last]) ++ [d] := congrArg (· ++ [d]) h
      rw [step, ih (c.add d) hadded, List.append_assoc]
      rfl
    | writeAttribute key value =>
      have hlast : c.added.getLast? = some last := by rw [h, List.getLast?_concat]
      have hadded : (c.withAttribute key value).added =
          earlier ++ [last.withAttribute key value] := by
        rw [withAttribute, hlast]
        show c.added.dropLast ++ _ = _
        rw [h, List.dropLast_concat]
      exact ih (c.withAttribute key value) hadded

theorem added_foldl_step_of_nil (h : c.added = []) :
    (steps.foldl step c).added = ConfigurationStep.declarations steps := by
  induction steps generalizing c with
  | nil => exact h
  | cons s rest ih =>
    rw [List.foldl_cons]
    cases s with
    | addDocument text => exact ih (c.addDocument text) h
    | addDeclaration d =>
      have hadded : (c.add d).added = [] ++ [d] := congrArg (· ++ [d]) h
      exact added_foldl_step_of_concat (c.add d) rest hadded
    | writeAttribute key value =>
      have hsame : c.step (.writeAttribute key value) = c := by
        rw [step, withAttribute, h]
        rfl
      rw [hsame]
      exact ih c h

/-- What is to be found in documents with declarations behind them. -/
inductive Finds (explain : Fault.Explanation) (settings : Settings) (documents : List String)
    (added : List Declaration) : Outcome → Prop where
  /-- Every document declares something, if nothing: all is analyzed as one list. -/
  | report {declared : List (List Declaration)}
      (hdeclared : List.Forall₂ (fun text found => Document.declarations text = .ok found)
        documents declared) {r : Report}
      (hr : r = ((Analyzer.ofSettings settings).analyze 0 (declared.flatten ++ added)).value.1) :
    Finds explain settings documents added ⟨r.errors.map AnalysisError.diagnostic, r⟩
  /-- The first document with a fault: nothing else is told. -/
  | fault {before : List String} {text : String} {after : List String}
      (hdocuments : documents = before ++ text :: after)
      (hbefore : ∀ other ∈ before, (Document.declarations other).isOk = true) {fault : Fault}
      (hfault : Document.declarations text = .error fault) :
    Finds explain settings documents added ⟨[fault.diagnostic explain], .empty⟩

theorem finds_analyze (explain : Fault.Explanation) :
    Finds explain c.settings c.documents c.added (c.analyze explain).value := by
  rw [analyze, declarations]
  cases hread : c.documents.mapM Document.declarations with
  | error fault =>
    obtain ⟨before, text, after, hdocuments, hbefore, hfault⟩ := exists_of_mapM_eq_error hread
    exact .fault hdocuments hbefore hfault
  | ok declared => exact .report (forall₂_of_mapM_eq_ok hread) rfl

end Configuration

/-- A document is analyzed as the declarations that are read from it, or the same fault is reported;
and a unit is analyzed as the declarations of its documents followed by those that are added, or the
first fault of a document is reported and nothing else, in whatever order the unit is put together
and whatever the parser says of a text that it refuses. -/
theorem analyses_agree (a : Analyzer) (now : Nat) (text : String) (settings : Settings)
    (steps : List ConfigurationStep) (explain : Fault.Explanation) :
    (a.analyzeDocument now text).value =
      (match Document.declarations text with
      | .error fault => (.error fault, a)
      | .ok declarations =>
        (.ok (a.analyze now declarations).value.1, (a.analyze now declarations).value.2)) ∧
    Configuration.Finds explain settings (ConfigurationStep.documents steps)
      (ConfigurationStep.declarations steps)
      ((Configuration.ofSteps settings steps).analyze explain).value := by
  refine ⟨a.value_analyzeDocument_eq now text, ?_⟩
  have hfinds := (Configuration.ofSteps settings steps).finds_analyze explain
  have hsettings : (Configuration.ofSteps settings steps).settings = settings :=
    Configuration.settings_foldl_step _ steps
  have hdocuments : (Configuration.ofSteps settings steps).documents =
      ConfigurationStep.documents steps :=
    Configuration.documents_foldl_step (.empty settings) steps
  have hadded : (Configuration.ofSteps settings steps).added =
      ConfigurationStep.declarations steps :=
    Configuration.added_foldl_step_of_nil (.empty settings) steps rfl
  rwa [hsettings, hdocuments, hadded] at hfinds

end InfraConfig
