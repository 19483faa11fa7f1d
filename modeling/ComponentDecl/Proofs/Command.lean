import ComponentDecl.Command
import ComponentDecl.Proofs.Selection

/-!
# Outcomes of commands

What a command reads and which of its checks fail is described here by rules, each check for
itself and without the order in which the command makes them.  The outcome of a command is
then the declaration of what it reads, or the failure of the first check that fails.
-/

namespace ComponentDecl

/-- What can fail in a command. -/
inductive Check where
  | name
  | config
  | source
  | grammar
  deriving DecidableEq, Repr

/-- The place of a check in the order in which they are made. -/
def Check.rank : Check → Nat
  | name => 0
  | config => 1
  | source => 2
  | grammar => 3

namespace Request

/-!
# What a command reads
-/

/-- The configuration file: the one that is asked for, else the default one if it is there. -/
def configFile? (folder : Entry) (r : Request) : Option Text :=
  r.config <|> if folder.holds Config.defaultName then some Config.defaultName else none

/-- The source of the component, and its name in reports. -/
inductive Reads (folder : Entry) (input : Contents) (r : Request) : Text → Text → Prop where
  | file {path t : Text} (hpath : r.input = some path) (hread : folder.readAt path = .ok t) :
      Reads folder input r t ((Path.ofText path).fileName?.getD "unknown")
  | input {t : Text} (hpath : r.input = none) (hread : input = .text t) :
      Reads folder input r t "<stdin>"

/-- The checks that fail, each with its error, for a command in a folder at the path `cwd`. -/
inductive Fails (cwd : Text) (folder : Entry) (input : Contents) (r : Request) :
    Check → CommandError → Prop where
  | nameMissing (h : r.name = none) : Fails cwd folder input r .name .nameMissing
  | configMissing {path : Text} (hpath : r.config = some path)
      (h : folder.holds path = false) :
      Fails cwd folder input r .config
        (.configMissing ((Disk.ofEntry cwd folder input).fullPath path))
  | configUnreadable {path : Text} {fault : ReadFault} (hpath : r.configFile? folder = some path)
      (hholds : folder.holds path = true) (h : folder.readAt path = .error fault) :
      Fails cwd folder input r .config (.configUnreadable fault)
  | configInvalid {path t : Text} (hpath : r.configFile? folder = some path)
      (hread : folder.readAt path = .ok t) (h : Config.ofText? t = none) :
      Fails cwd folder input r .config
        (.configInvalid ((Disk.ofEntry cwd folder input).fullPath path))
  | sourceUnreadable {path : Text} {fault : ReadFault} (hpath : r.input = some path)
      (h : folder.readAt path = .error fault) :
      Fails cwd folder input r .source
        (.sourceUnreadable ((Disk.ofEntry cwd folder input).fullPath path))
  | inputUnreadable (hpath : r.input = none) (h : input = .garbled) :
      Fails cwd folder input r .source .inputUnreadable
  | rejected {source reported : Text} {e : ParseError}
      (hread : r.Reads folder input source reported) (h : Module.parse source = .error e) :
      Fails cwd folder input r .grammar (.rejected e reported source)

end Request

/-!
# The parts of a command
-/

theorem Entry.holds_of_readAt {folder : Entry} {path t : Text} (h : folder.readAt path = .ok t) :
    folder.holds path = true := by
  unfold readAt at h
  unfold holds
  split at h
  · cases h
  · rename_i hat
    rw [hat]
  · rename_i hat
    rw [hat]

namespace Request

variable {cwd : Text} {folder : Entry} {input : Contents} {r : Request}

/-!
# The configuration
-/

theorem configFile?_of_config {path : Text} (h : r.config = some path) :
    r.configFile? folder = some path := by
  simp [configFile?, h]

theorem readAt_of_error {path : Text} {fault : ReadFault}
    (h : folder.readAt path = .error fault) :
    Config.readAt (Disk.ofEntry cwd folder input) path = .error (.configUnreadable fault) := by
  simp only [Config.readAt, Disk.ofEntry, h, bind]
  rfl

theorem readAt_of_ok {path t : Text} (h : folder.readAt path = .ok t) :
    Config.readAt (Disk.ofEntry cwd folder input) path =
      match Config.ofText? t with
      | some c => .ok c
      | none => .error (.configInvalid ((Disk.ofEntry cwd folder input).fullPath path)) := by
  simp only [Config.readAt, Disk.ofEntry, h, bind]
  cases Config.ofText? t <;> rfl

theorem load_of_missing {path : Text} (hpath : r.config = some path)
    (h : folder.holds path = false) :
    Config.load (Disk.ofEntry cwd folder input) r.config =
      .error (.configMissing ((Disk.ofEntry cwd folder input).fullPath path)) := by
  simp only [Config.load, Disk.ofEntry, hpath, h, bind]
  rfl

theorem load_of_file {path : Text} (hpath : r.configFile? folder = some path)
    (h : folder.holds path = true) :
    Config.load (Disk.ofEntry cwd folder input) r.config =
      Config.readAt (Disk.ofEntry cwd folder input) path := by
  cases hconfig : r.config with
  | some path' =>
      rw [configFile?_of_config hconfig] at hpath
      rcases Option.some.inj hpath with rfl
      simp only [Config.load, Disk.ofEntry, h, bind]
      rfl
  | none =>
      simp only [configFile?, hconfig] at hpath
      split at hpath
      · rcases Option.some.inj hpath with rfl
        simp only [Config.load, Disk.ofEntry, h, bind]
        rfl
      · cases hpath

theorem load_of_fails {e : CommandError} (h : r.Fails cwd folder input .config e) :
    Config.load (Disk.ofEntry cwd folder input) r.config = .error e := by
  cases h with
  | configMissing hpath hholds =>
      exact load_of_missing hpath hholds
  | configUnreadable hpath hholds hread =>
      rw [load_of_file hpath hholds, readAt_of_error hread]
  | configInvalid hpath hread hc =>
      rw [load_of_file hpath (Entry.holds_of_readAt hread), readAt_of_ok hread, hc]

theorem source_of_reads {s n : Text} (h : r.Reads folder input s n) :
    r.source (Disk.ofEntry cwd folder input) = .ok (s, n) := by
  cases h with
  | file hpath hread =>
      simp only [source, Disk.ofEntry, hpath, hread, bind]
      rfl
  | input hpath hread =>
      simp only [source, Disk.ofEntry, hpath, hread, bind, Contents.read]
      rfl

theorem source_of_fails {e : CommandError} (h : r.Fails cwd folder input .source e) :
    r.source (Disk.ofEntry cwd folder input) = .error e := by
  cases h with
  | sourceUnreadable hpath hread =>
      simp only [source, Disk.ofEntry, hpath, hread, bind]
      rfl
  | inputUnreadable hpath hread =>
      simp only [source, Disk.ofEntry, hpath, hread, bind, Contents.read]
      rfl

theorem Reads.unique {s s' n n' : Text} (h : r.Reads folder input s n)
    (h' : r.Reads folder input s' n') : s = s' ∧ n = n' := by
  have hsource : r.source (Disk.ofEntry [] folder input) = .ok (s, n) := source_of_reads h
  rw [source_of_reads h'] at hsource
  exact Prod.mk.inj (Except.ok.inj hsource.symm)

theorem Fails.unique {k : Check} {e e' : CommandError} (h : r.Fails cwd folder input k e)
    (h' : r.Fails cwd folder input k e') : e' = e := by
  cases k with
  | name =>
      cases h
      cases h'
      rfl
  | config =>
      have hload := load_of_fails h'
      rw [load_of_fails h] at hload
      exact Except.error.inj hload.symm
  | source =>
      have hsource := source_of_fails h'
      rw [source_of_fails h] at hsource
      exact Except.error.inj hsource.symm
  | grammar =>
      cases h with
      | rejected hread hp =>
          cases h' with
          | rejected hread' hp' =>
              rcases hread.unique hread' with ⟨rfl, rfl⟩
              rw [hp] at hp'
              rcases Except.error.inj hp' with rfl
              rfl

end Request

end ComponentDecl
