import ComponentDecl.Command
import ComponentDecl.Proofs.Files.Spelling
import Mathlib.Data.List.Induction

/-!
# Reading files in memory

Each addition is seen at all spellings of its path and at no other.  So after any row of
additions a path gives the text of the last addition at one of its spellings, and only the
additions at its spellings, in their order, matter for it.
-/

namespace ComponentDecl
namespace MemoryFiles

/-- Whether a file was added at a spelling of a path. -/
def isAt (path : Text) (f : Text × Text) : Bool :=
  decide (Path.Same f.1 path)

/-- The last text that was added at a spelling of a path. -/
def LastAt (path : Text) (files : List (Text × Text)) (contents : Text) : Prop :=
  ∃ before p after, files = before ++ (p, contents) :: after ∧ Path.Same p path ∧
    ∀ f ∈ after, ¬ Path.Same f.1 path

theorem isAt_iff {path : Text} {f : Text × Text} : isAt path f = true ↔ Path.Same f.1 path :=
  decide_eq_true_iff

theorem filter_isAt_eq_nil {path : Text} {files : List (Text × Text)} :
    files.filter (isAt path) = [] ↔ ∀ f ∈ files, ¬ Path.Same f.1 path := by
  simp only [List.filter_eq_nil_iff, isAt_iff]

/-- Additions of which no two are at the same path may be put in any order. -/
theorem filter_isAt_of_perm {block block' : List (Text × Text)} (path : Text)
    (hapart : block.Pairwise fun f g => ¬ Path.Same f.1 g.1) (hperm : block.Perm block') :
    block.filter (isAt path) = block'.filter (isAt path) := by
  have hfiltered := hperm.filter (isAt path)
  cases hfilter : block.filter (isAt path) with
  | nil =>
      rw [hfilter] at hfiltered
      exact hfiltered.nil_eq
  | cons f rest =>
      cases rest with
      | nil =>
          rw [hfilter] at hfiltered
          exact hfiltered.singleton_eq
      | cons g rest =>
          have hpair := hapart.filter (isAt path)
          have hf : f ∈ block.filter (isAt path) := by
            simp [hfilter]
          have hg : g ∈ block.filter (isAt path) := by
            simp [hfilter]
          rw [hfilter] at hpair
          have hsame := (isAt_iff.mp (List.mem_filter.mp hf).2).trans
            (isAt_iff.mp (List.mem_filter.mp hg).2).symm
          exact absurd hsame (List.rel_of_pairwise_cons hpair (List.mem_cons_self))

/-!
# One addition and a row of them
-/

theorem read_empty (path : Text) : empty.read path = .error .unlisted :=
  rfl

theorem read_add (fs : MemoryFiles) (p contents path : Text) :
    (fs.add p contents).read path =
      if Path.Same p path then .ok contents else fs.read path := by
  by_cases h : Path.Same p path
  · have hpath : (Path.ofText p == Path.ofText path) = true := by
      rw [beq_iff_eq, ← Path.same_iff]
      exact h
    simp only [read, add, List.find?_cons, hpath, if_pos h]
  · have hpath : (Path.ofText p == Path.ofText path) = false := by
      rw [beq_eq_false_iff_ne, Ne, ← Path.same_iff]
      exact h
    simp only [read, add, List.find?_cons, hpath, if_neg h]

theorem ofList_concat (files : List (Text × Text)) (f : Text × Text) :
    ofList (files ++ [f]) = (ofList files).add f.1 f.2 :=
  List.foldl_append

/-- Of a row of additions the last one at a spelling of the path is read. -/
theorem read_ofList (files : List (Text × Text)) (path : Text) :
    (ofList files).read path =
      match (files.filter (isAt path)).getLast? with
      | some f => .ok f.2
      | none => .error .unlisted := by
  induction files using List.reverseRecOn with
  | nil =>
      exact read_empty path
  | append_singleton files f ih =>
      rw [ofList_concat, read_add, List.filter_append]
      by_cases h : Path.Same f.1 path
      · rw [if_pos h, List.filter_cons_of_pos (isAt_iff.mpr h), List.filter_nil,
          List.getLast?_concat]
      · rw [if_neg h, List.filter_cons_of_neg (fun hat => h (isAt_iff.mp hat)), List.filter_nil,
          List.append_nil, ih]

theorem read_ofList_congr {files files' : List (Text × Text)} {path : Text}
    (h : files.filter (isAt path) = files'.filter (isAt path)) :
    (ofList files).read path = (ofList files').read path := by
  rw [read_ofList, read_ofList, h]

theorem read_of_lastAt {path contents : Text} {files : List (Text × Text)}
    (h : LastAt path files contents) : (ofList files).read path = .ok contents := by
  rcases h with ⟨before, p, after, rfl, hp, hafter⟩
  rw [read_ofList, List.filter_append, List.filter_cons_of_pos (isAt_iff.mpr hp),
    filter_isAt_eq_nil.mpr hafter, List.getLast?_concat]

theorem read_eq_error_iff {path : Text} {files : List (Text × Text)} {fault : ReadFault} :
    (ofList files).read path = .error fault ↔
      fault = .unlisted ∧ ∀ f ∈ files, ¬ Path.Same f.1 path := by
  rw [read_ofList, ← filter_isAt_eq_nil, ← List.getLast?_eq_none_iff]
  cases (files.filter (isAt path)).getLast? with
  | none => simp [eq_comm]
  | some f => simp

end MemoryFiles

namespace Declaration

theorem ofText_ne_read (o : Options) (name source path : Text) (fault : ReadFault) :
    (ofText o name source).value ≠ .error (.read path fault) := by
  rw [ofText, Logged.value_bind]
  cases (ofSource o name source).value with
  | error e =>
      intro h
      cases h
  | ok t =>
      intro h
      cases h

theorem ofFile_congr {read read' : Text → Except ReadFault Text} {path : Text}
    (h : read path = read' path) (o : Options) (name : Text) :
    ofFile read o name path = ofFile read' o name path := by
  rw [ofFile, ofFile, h]

theorem ofFile_of_ok {read : Text → Except ReadFault Text} {path source : Text}
    (h : read path = .ok source) (o : Options) (name : Text) :
    (ofFile read o name path).value = (ofText o name source).value ∧
      (ofFile read o name path).notices =
        .sourceRead path :: (ofText o name source).notices := by
  rw [ofFile, h]
  exact ⟨rfl, rfl⟩

theorem ofFile_of_error {read : Text → Except ReadFault Text} {path : Text} {fault : ReadFault}
    (h : read path = .error fault) (o : Options) (name : Text) :
    ofFile read o name path = ⟨.error (.read path fault), []⟩ := by
  rw [ofFile, h]
  rfl

/-- A declaration fails for the file exactly if the file cannot be read. -/
theorem ofFile_eq_read_iff (read : Text → Except ReadFault Text) (o : Options)
    (name path p : Text) (fault : ReadFault) :
    (ofFile read o name path).value = .error (.read p fault) ↔
      p = path ∧ read path = .error fault := by
  cases h : read path with
  | error fault' =>
      rw [ofFile_of_error h]
      simp [eq_comm]
  | ok source =>
      rw [(ofFile_of_ok h o name).1]
      simp [ofText_ne_read]

end Declaration

/-- The declaration of a file in memory is that of the text added last at its path, in whatever
spelling.  Without such a text there is nothing but the failure that names the path as it was
given.  Files at other paths, and the order of files at different paths, do not matter. -/
theorem declares_last_text_at_path (o : Options) (name path : Text)
    (files : List (Text × Text)) :
    let declared (files : List (Text × Text)) : Logged (Except Failure Text) :=
      Declaration.ofFile (MemoryFiles.ofList files).read o name path
    (∀ s t, Path.Same s t ↔ Path.ofText s = Path.ofText t) ∧
    (∀ contents, MemoryFiles.LastAt path files contents →
      (declared files).value = (Declaration.ofText o name contents).value ∧
      (declared files).notices =
        .sourceRead path :: (Declaration.ofText o name contents).notices) ∧
    (∀ p fault, (declared files).value = .error (.read p fault) ↔
      p = path ∧ fault = .unlisted ∧ ∀ f ∈ files, ¬ Path.Same f.1 path) ∧
    ((∀ f ∈ files, ¬ Path.Same f.1 path) → (declared files).notices = []) ∧
    (∀ before others others' after, (∀ f ∈ others ++ others', ¬ Path.Same f.1 path) →
      declared (before ++ others ++ after) = declared (before ++ others' ++ after)) ∧
    (∀ before block block' after, (block.Pairwise fun f g => ¬ Path.Same f.1 g.1) →
      block.Perm block' →
      declared (before ++ block ++ after) = declared (before ++ block' ++ after)) := by
  intro declared
  -- a declaration depends on the files at its path alone
  have hcongr {files files' : List (Text × Text)}
      (h : files.filter (MemoryFiles.isAt path) = files'.filter (MemoryFiles.isAt path)) :
      declared files = declared files' :=
    Declaration.ofFile_congr (MemoryFiles.read_ofList_congr h) o name
  refine ⟨fun _ _ => Path.same_iff, ?_, ?_, ?_, ?_, ?_⟩
  · intro contents hlast
    exact Declaration.ofFile_of_ok (MemoryFiles.read_of_lastAt hlast) o name
  · intro p fault
    rw [Declaration.ofFile_eq_read_iff, MemoryFiles.read_eq_error_iff]
  · intro hnone
    have hread := MemoryFiles.read_eq_error_iff.mpr ⟨rfl, hnone⟩
    exact congrArg Logged.notices (Declaration.ofFile_of_error hread o name)
  · intro before others others' after hothers
    rw [List.forall_mem_append] at hothers
    apply hcongr
    simp only [List.filter_append, MemoryFiles.filter_isAt_eq_nil.mpr hothers.1,
      MemoryFiles.filter_isAt_eq_nil.mpr hothers.2]
  · intro before block block' after hapart hperm
    apply hcongr
    simp only [List.filter_append, MemoryFiles.filter_isAt_of_perm path hapart hperm]

/-- Files at four paths: `a/b` is spelled twice. -/
def respelledFiles : List (Text × Text) :=
  [("a//b", "export default class A \x7b\x7d"), ("./a/b", "x"),
    ("a/./b/", "export default class B \x7b\x7d"), ("/a/b", "y"), ("a/../a/b", "z")]

theorem declares_last_text_at_path_respelled :
    let declared (files : List (Text × Text)) (path : Text) : Logged (Except Failure Text) :=
      Declaration.ofFile (MemoryFiles.ofList files).read {} "m" path
    let further : List (Text × Text) := [("a/b/..", "u"), ("/a/b", "v")]
    let block := (respelledFiles.drop 1).take 3
    MemoryFiles.LastAt "a/b" respelledFiles "export default class B \x7b\x7d" ∧
      (declared respelledFiles "a/b").value =
        .ok (Declaration.text {} "m" (some ⟨"B", none, none⟩)) ∧
      (∀ f ∈ respelledFiles, ¬ Path.Same f.1 "b/.") ∧
      (declared respelledFiles "b/.").value = .error (.read "b/." .unlisted) ∧
      (declared respelledFiles "b/.").notices = [] ∧
      (∀ f ∈ further, ¬ Path.Same f.1 "a/b") ∧
      declared (respelledFiles.take 3 ++ [] ++ respelledFiles.drop 3) "a/b" =
        declared (respelledFiles.take 3 ++ further ++ respelledFiles.drop 3) "a/b" ∧
      block.Pairwise (fun f g => ¬ Path.Same f.1 g.1) ∧
      declared (respelledFiles.take 1 ++ block ++ respelledFiles.drop 4) "a/b" =
        declared (respelledFiles.take 1 ++ block.reverse ++ respelledFiles.drop 4) "a/b" := by
  intro declared further block
  have hfiles (path : Text) := declares_last_text_at_path {} "m" path respelledFiles
  have hlast : MemoryFiles.LastAt "a/b" respelledFiles "export default class B \x7b\x7d" :=
    ⟨respelledFiles.take 2, "a/./b/", respelledFiles.drop 3, rfl, by decide, by decide⟩
  have hnone : ∀ f ∈ respelledFiles, ¬ Path.Same f.1 "b/." := by
    decide
  have hfurther : ∀ f ∈ further, ¬ Path.Same f.1 "a/b" := by
    decide
  have hapart : block.Pairwise fun f g => ¬ Path.Same f.1 g.1 := by
    decide
  refine ⟨hlast, ?_, hnone, ?_, ?_, hfurther, ?_, hapart, ?_⟩
  · refine ((hfiles "a/b").2.1 _ hlast).1.trans ?_
    decide +kernel
  · exact ((hfiles "b/.").2.2.1 _ _).mpr ⟨rfl, rfl, hnone⟩
  · exact (hfiles "b/.").2.2.2.1 hnone
  · exact (hfiles "a/b").2.2.2.2.1 _ _ _ _ hfurther
  · exact (hfiles "a/b").2.2.2.2.2 _ _ _ _ hapart (List.reverse_perm block).symm

end ComponentDecl
