import ComponentDecl.Proofs.Command
import ComponentDecl.Proofs.Json.Reader

/-!
# Configuration files

A configuration file spells an object, which may hold the three known keys once each in any
order and other keys anywhere, or an array of up to three elements.  What the file sets is
described here on the value that it spells, and a file is loaded exactly as it is described.
-/

namespace ComponentDecl

open JsonValue

namespace Config

/-!
# What a file sets
-/

/-- What a value sets a field to, if there is one: the null value is as good as none. -/
inductive Sets : Option JsonValue → Option Text → Prop where
  | absent : Sets none none
  | null : Sets (some .null) none
  | text {ps : List Piece} {t : Text} (h : Piece.Makes ps t) :
      Sets (some (.string ps)) (some t)

/-- What the members of an object set the field of a name to.  The name stands among the keys
once at most. -/
inductive SetsUnder (name : Text) : Option Text → List (List Piece × JsonValue) → Prop where
  | absent {ms : List (List Piece × JsonValue)} (h : ∀ m ∈ ms, ¬ Piece.Makes m.1 name) :
      SetsUnder name none ms
  | other {key : List Piece} {v : JsonValue} {o : Option Text}
      {ms : List (List Piece × JsonValue)} (hkey : ¬ Piece.Makes key name)
      (h : SetsUnder name o ms) : SetsUnder name o ((key, v) :: ms)
  | here {key : List Piece} {v : JsonValue} {o : Option Text}
      {ms : List (List Piece × JsonValue)} (hkey : Piece.Makes key name)
      (hv : Sets (some v) o) (h : ∀ m ∈ ms, ¬ Piece.Makes m.1 name) :
      SetsUnder name o ((key, v) :: ms)

/-- The texts that spell a configuration, as an object or as an array. -/
inductive SpelledBy (c : Config) : Text → Prop where
  | object {ms : List (List Piece × JsonValue)} {t : Text}
      (hkeys : ∀ m ∈ ms, ∃ key, Piece.Makes m.1 key)
      (hlibrary : SetsUnder "library" c.library ms)
      (hlibraryModule : SetsUnder "libraryModule" c.libraryModule ms)
      (hindent : SetsUnder "indent" c.indent ms)
      (h : SpellsSpaced (.object ms) t) : SpelledBy c t
  | array {vs : List JsonValue} {t : Text} (hlength : vs.length ≤ 3)
      (hlibrary : Sets vs[0]? c.library) (hlibraryModule : Sets vs[1]? c.libraryModule)
      (hindent : Sets vs[2]? c.indent) (h : SpellsSpaced (.array vs) t) : SpelledBy c t

/-- The keys with a meaning, which an object may not repeat. -/
def knownKeys : List Text :=
  ["library", "libraryModule", "indent"]

/-!
# Fields of a value
-/

theorem sets_none {o : Option Text} : Sets none o ↔ none = o := by
  constructor
  · intro h
    cases h
    rfl
  · rintro rfl
    exact .absent

theorem textOrNull?_eq_some {v : JsonValue} {u : Text} {o : Option Text}
    (h : SpellsSpaced v u) : v.textOrNull? = some o ↔ Sets (some v) o := by
  constructor
  · intro ho
    cases h with
    | intro _ h _ =>
        cases h with
        | null =>
            cases ho
            exact .null
        | string hb =>
            rcases Option.map_eq_some_iff.mp ho with ⟨t, ht, rfl⟩
            exact .text (hb.text?_eq_some.mp ht)
        | _ => cases ho
  · intro ho
    cases ho with
    | null => rfl
    | text ht => simp [textOrNull?, ht.text?]

theorem ofElements?_eq_some {vs : List JsonValue} {c : Config}
    (hvs : ∀ v ∈ vs, ∃ u, SpellsSpaced v u) :
    ofElements? vs = some c ↔ vs.length ≤ 3 ∧ Sets vs[0]? c.library ∧
      Sets vs[1]? c.libraryModule ∧ Sets vs[2]? c.indent := by
  have hfield {v : JsonValue} (hv : v ∈ vs) (o : Option Text) :
      Sets (some v) o ↔ v.textOrNull? = some o := by
    rcases hvs v hv with ⟨u, hu⟩
    exact (textOrNull?_eq_some hu).symm
  rcases c with ⟨library, libraryModule, indent⟩
  match vs with
  | [] => simp [ofElements?, sets_none]
  | [v] => simp [ofElements?, sets_none, hfield, Option.bind_eq_some_iff]
  | [v, w] => simp [ofElements?, sets_none, hfield, Option.bind_eq_some_iff]
  | [v, w, x] => simp [ofElements?, hfield, Option.bind_eq_some_iff]
  | v :: w :: x :: y :: vs => simp [ofElements?]

/-!
# Fields of members
-/

theorem setsUnder_cons_of_ne {name : Text} {key : List Piece} {v : JsonValue} {o : Option Text}
    {ms : List (List Piece × JsonValue)} (hkey : ¬ Piece.Makes key name) :
    SetsUnder name o ((key, v) :: ms) ↔ SetsUnder name o ms := by
  constructor
  · intro h
    cases h with
    | absent h => exact .absent (fun m hm => h m (List.mem_cons_of_mem _ hm))
    | other _ h => exact h
    | here hmakes _ _ => exact absurd hmakes hkey
  · exact .other hkey

theorem setsUnder_cons_self {name : Text} {key : List Piece} {v : JsonValue} {o : Option Text}
    {ms : List (List Piece × JsonValue)} (hkey : Piece.Makes key name) :
    SetsUnder name o ((key, v) :: ms) ↔
      Sets (some v) o ∧ ∀ m ∈ ms, ¬ Piece.Makes m.1 name := by
  constructor
  · intro h
    cases h with
    | absent h => exact absurd hkey (h _ (List.mem_cons_self ..))
    | other hne _ => exact absurd hkey hne
    | here _ hv h => exact ⟨hv, h⟩
  · rintro ⟨hv, h⟩
    exact .here hkey hv h

theorem field?_cons_of_ne {name key : Text} {v : JsonValue} {ks : List (Text × JsonValue)}
    (h : key ≠ name) : field? name ((key, v) :: ks) = field? name ks := by
  simp [field?, h]

theorem field?_cons_self {name : Text} {v : JsonValue} {ks : List (Text × JsonValue)}
    {o : Option Text} :
    field? name ((name, v) :: ks) = some o ↔
      v.textOrNull? = some o ∧ ∀ k ∈ ks, k.1 ≠ name := by
  have hfilter : (∀ k ∈ ks, k.1 ≠ name) ↔ ks.filter (fun k => k.1 == name) = [] := by
    simp [List.filter_eq_nil_iff]
  rw [hfilter, field?, List.filter_cons_of_pos (by simp)]
  cases ks.filter fun k => k.1 == name with
  | nil => simp
  | cons k ks => simp

theorem text?_key {m : List Piece × JsonValue} {u t : Text} (h : SpellsMember m u) :
    Piece.text? m.1 = some t ↔ Piece.Makes m.1 t := by
  cases h with
  | intro _ hk _ _ => exact hk.text?_eq_some

theorem textOrNull?_member {m : List Piece × JsonValue} {u : Text} {o : Option Text}
    (h : SpellsMember m u) : m.2.textOrNull? = some o ↔ Sets (some m.2) o := by
  cases h with
  | intro _ _ _ hv => exact textOrNull?_eq_some hv

theorem keyed?_cons {m : List Piece × JsonValue} {ms : List (List Piece × JsonValue)}
    {ks : List (Text × JsonValue)} :
    keyed? (m :: ms) = some ks ↔
      ∃ key rest, Piece.text? m.1 = some key ∧ keyed? ms = some rest ∧
        (key, m.2) :: rest = ks := by
  simp [keyed?, Option.bind_eq_some_iff]

theorem exists_keyed? {ms : List (List Piece × JsonValue)}
    (hms : ∀ m ∈ ms, ∃ u, SpellsMember m u) :
    (∃ ks, keyed? ms = some ks) ↔ ∀ m ∈ ms, ∃ key, Piece.Makes m.1 key := by
  induction ms with
  | nil => simp [keyed?]
  | cons m ms ih =>
      rcases hms m (List.mem_cons_self ..) with ⟨u, hu⟩
      have hrest := ih (fun n hn => hms n (List.mem_cons_of_mem _ hn))
      rw [List.forall_mem_cons, ← hrest]
      constructor
      · rintro ⟨ks, hks⟩
        rcases keyed?_cons.mp hks with ⟨key, rest, hkey, hks, -⟩
        exact ⟨⟨key, (text?_key hu).mp hkey⟩, rest, hks⟩
      · rintro ⟨⟨key, hkey⟩, rest, hks⟩
        exact ⟨_, keyed?_cons.mpr ⟨key, rest, (text?_key hu).mpr hkey, hks, rfl⟩⟩

theorem forall_keyed? {ms : List (List Piece × JsonValue)} {ks : List (Text × JsonValue)}
    {name : Text} (hms : ∀ m ∈ ms, ∃ u, SpellsMember m u) (hks : keyed? ms = some ks) :
    (∀ k ∈ ks, k.1 ≠ name) ↔ ∀ m ∈ ms, ¬ Piece.Makes m.1 name := by
  induction ms generalizing ks with
  | nil =>
      cases hks
      simp
  | cons m ms ih =>
      rcases keyed?_cons.mp hks with ⟨key, rest, hkey, hrest, rfl⟩
      rcases hms m (List.mem_cons_self ..) with ⟨u, hu⟩
      rw [List.forall_mem_cons, List.forall_mem_cons,
        ih (fun n hn => hms n (List.mem_cons_of_mem _ hn)) hrest, ← text?_key hu, hkey,
        Option.some.injEq]

theorem field?_eq_some {ms : List (List Piece × JsonValue)} {ks : List (Text × JsonValue)}
    {name : Text} {o : Option Text} (hms : ∀ m ∈ ms, ∃ u, SpellsMember m u)
    (hks : keyed? ms = some ks) : field? name ks = some o ↔ SetsUnder name o ms := by
  induction ms generalizing ks with
  | nil =>
      cases hks
      constructor
      · intro ho
        cases ho
        exact .absent (by simp)
      · intro ho
        cases ho
        rfl
  | cons m ms ih =>
      rcases m with ⟨pieces, v⟩
      rcases keyed?_cons.mp hks with ⟨key, rest, hkey, hrest, rfl⟩
      rcases hms _ (List.mem_cons_self ..) with ⟨u, hu⟩
      have htail : ∀ m ∈ ms, ∃ u, SpellsMember m u := fun n hn =>
        hms n (List.mem_cons_of_mem _ hn)
      by_cases hname : key = name
      · subst hname
        rw [setsUnder_cons_self ((text?_key hu).mp hkey), field?_cons_self,
          forall_keyed? htail hrest]
        exact and_congr_left fun _ => textOrNull?_member hu
      · have hmakes : ¬ Piece.Makes pieces name := by
          rw [← text?_key hu, hkey, Option.some.injEq]
          exact hname
        rw [setsUnder_cons_of_ne hmakes, field?_cons_of_ne hname, ih htail hrest]

theorem ofMembers?_eq_some {ms : List (List Piece × JsonValue)} {c : Config}
    (hms : ∀ m ∈ ms, ∃ u, SpellsMember m u) :
    ofMembers? ms = some c ↔ (∀ m ∈ ms, ∃ key, Piece.Makes m.1 key) ∧
      SetsUnder "library" c.library ms ∧ SetsUnder "libraryModule" c.libraryModule ms ∧
      SetsUnder "indent" c.indent ms := by
  rw [← exists_keyed? hms]
  rcases c with ⟨library, libraryModule, indent⟩
  cases hks : keyed? ms with
  | none => simp [ofMembers?, hks]
  | some ks =>
      simp [ofMembers?, hks, Option.bind_eq_some_iff, field?_eq_some hms hks]

/-!
# Files
-/

theorem ofText?_eq_some {t : Text} {c : Config} : ofText? t = some c ↔ c.SpelledBy t := by
  have hof : ofText? t = some c ↔ ∃ v, SpellsSpaced v t ∧ ofJson? v = some c := by
    simp only [ofText?, Option.bind_eq_bind, Option.bind_eq_some_iff, read?_eq_some]
  rw [hof]
  constructor
  · rintro ⟨v, hv, hc⟩
    cases v with
    | object ms =>
        rcases (ofMembers?_eq_some hv.exists_member).mp hc with ⟨hkeys, hl, hm, hi⟩
        exact .object hkeys hl hm hi hv
    | array vs =>
        rcases (ofElements?_eq_some hv.exists_spaced).mp hc with ⟨hlength, hl, hm, hi⟩
        exact .array hlength hl hm hi hv
    | _ => cases hc
  · intro h
    cases h with
    | object hkeys hl hm hi hv =>
        exact ⟨_, hv, (ofMembers?_eq_some hv.exists_member).mpr ⟨hkeys, hl, hm, hi⟩⟩
    | array hlength hl hm hi hv =>
        exact ⟨_, hv, (ofElements?_eq_some hv.exists_spaced).mpr ⟨hlength, hl, hm, hi⟩⟩

theorem SetsUnder.not_repeated {name : Text} {o : Option Text}
    {ms : List (List Piece × JsonValue)} {m n : List Piece × JsonValue}
    (h : SetsUnder name o ms) (hmn : [m, n].Sublist ms) (hm : Piece.Makes m.1 name)
    (hn : Piece.Makes n.1 name) : False := by
  induction h with
  | absent h => exact h m (hmn.subset (by simp)) hm
  | other hkey _ ih =>
      cases hmn with
      | cons _ hmn => exact ih hmn
      | cons_cons _ _ => exact hkey hm
  | here hkey _ h =>
      cases hmn with
      | cons _ hmn => exact h m (hmn.subset (by simp)) hm
      | cons_cons _ hmn => exact h n (hmn.subset (by simp)) hn

/-- A file with an object that repeats a known key spells no configuration. -/
theorem SpelledBy.not_repeated {c : Config} {t : Text} {ms : List (List Piece × JsonValue)}
    {name : Text} {m n : List Piece × JsonValue} (h : c.SpelledBy t)
    (hms : SpellsSpaced (.object ms) t)
    (hname : name ∈ knownKeys)
    (hmn : [m, n].Sublist ms) (hm : Piece.Makes m.1 name) (hn : Piece.Makes n.1 name) :
    False := by
  cases h with
  | object _ hl hlm hi hv =>
      cases hv.unique hms
      simp only [knownKeys, List.mem_cons, List.not_mem_nil, or_false] at hname
      rcases hname with rfl | rfl | rfl
      · exact hl.not_repeated hmn hm hn
      · exact hlm.not_repeated hmn hm hn
      · exact hi.not_repeated hmn hm hn
  | array _ _ _ _ hv => cases hv.unique hms

/-- A file with something other than white space after a value spells no configuration. -/
theorem SpelledBy.not_trailing {c : Config} {v : JsonValue} {b u rest : Text}
    (h : c.SpelledBy (b ++ u ++ rest)) (hb : IsBlank b) (hu : Spells v u)
    (hrest : ¬ IsBlank rest) : False := by
  cases h with
  | object _ _ _ _ hv =>
      rcases hv.number_of_trailing hb hu hrest with ⟨n, hn⟩
      cases hn
  | array _ _ _ _ hv =>
      rcases hv.number_of_trailing hb hu hrest with ⟨n, hn⟩
      cases hn

theorem exists_sets (o : Option Text) : ∃ v u, Sets (some v) o ∧ SpellsSpaced v u := by
  cases o with
  | none => exact ⟨_, _, .null, .intro isBlank_nil .null isBlank_nil⟩
  | some t =>
      rcases exists_body t with ⟨ps, b, hps, hb⟩
      exact ⟨_, _, .text hps, .intro isBlank_nil (.string hb) isBlank_nil⟩

/-- Every configuration has a file that spells it, whatever its texts. -/
theorem exists_spelledBy (c : Config) : ∃ t, c.SpelledBy t := by
  rcases exists_sets c.library with ⟨v, u, hv, hu⟩
  rcases exists_sets c.libraryModule with ⟨v', u', hv', hu'⟩
  rcases exists_sets c.indent with ⟨v'', u'', hv'', hu''⟩
  have harray := Spells.array (.cons hu (.cons hu' (.last hu'')))
  refine ⟨_, .array ?_ ?_ ?_ ?_ (.intro isBlank_nil harray isBlank_nil)⟩
  · simp
  · exact hv
  · exact hv'
  · exact hv''

theorem load_of_readAt {cwd : Text} {folder : Entry} {input : Contents} {given : Option Text}
    {t : Text} (h : folder.readAt (given.getD defaultName) = .ok t) :
    load (Disk.ofEntry cwd folder input) given =
      match ofText? t with
      | some c => .ok c
      | none => .error (.configInvalid
          ((Disk.ofEntry cwd folder input).fullPath (given.getD defaultName))) := by
  have hholds := Entry.holds_of_readAt h
  refine Eq.trans ?_ (Request.readAt_of_ok h)
  cases given with
  | none =>
      simp only [Option.getD_none] at hholds ⊢
      simp only [load, Disk.ofEntry, hholds, bind]
      rfl
  | some path =>
      simp only [Option.getD_some] at hholds ⊢
      simp only [load, Disk.ofEntry, hholds, bind]
      rfl

end Config

/-- A configuration file is loaded as the configuration that it spells, as an object or as an
array, and refused if it spells none.  A known key may not be repeated, and nothing but white
space may follow the value. -/
theorem config_is_read_as_spelled (cwd : Text) (folder : Entry) (input : Contents)
    (given : Option Text) (content : Text)
    (hread : folder.readAt (given.getD Config.defaultName) = .ok content) :
    let disk := Disk.ofEntry cwd folder input
    let refused : Except CommandError Config :=
      .error (.configInvalid (disk.fullPath (given.getD Config.defaultName)))
    (∀ c : Config, Config.load disk given = .ok c ↔ c.SpelledBy content) ∧
    (Config.load disk given = refused ↔ ∀ c : Config, ¬ c.SpelledBy content) ∧
    (∀ ms m n, SpellsSpaced (.object ms) content → [m, n].Sublist ms →
      ∀ name ∈ Config.knownKeys, Piece.Makes m.1 name → Piece.Makes n.1 name →
      Config.load disk given = refused) ∧
    (∀ v b u rest, IsBlank b → Spells v u → ¬ IsBlank rest → content = b ++ u ++ rest →
      Config.load disk given = refused) := by
  intro disk refused
  have hload : Config.load disk given =
      match Config.ofText? content with
      | some c => .ok c
      | none => refused := Config.load_of_readAt hread
  have hrefused : Config.load disk given = refused ↔ ∀ c : Config, ¬ c.SpelledBy content := by
    simp only [← Config.ofText?_eq_some, ← Option.eq_none_iff_forall_ne_some]
    rw [hload]
    cases Config.ofText? content with
    | none => simp
    | some c => simp [refused]
  refine ⟨?_, hrefused, ?_, ?_⟩
  · intro c
    rw [hload, ← Config.ofText?_eq_some]
    cases Config.ofText? content with
    | none => exact ⟨nofun, nofun⟩
    | some c' => rw [Except.ok.injEq, Option.some.injEq]
  · intro ms m n hms hmn name hname hm hn
    exact hrefused.mpr fun c hc => hc.not_repeated hms hname hmn hm hn
  · rintro v b u rest hb hu hrest rfl
    exact hrefused.mpr fun c hc => hc.not_trailing hb hu hrest

theorem config_is_read_as_spelled_escaped :
    let load (t : Text) : Except CommandError Config :=
      Config.load (Disk.ofEntry "/w" (.folder [("c", .file (.text t))]) (.text [])) (some "c")
    load (" \x7b\"x\":[1e3,\x7b\"indent\":7\x7d],".toList ++
        "\"\\u006Cibrary\":\"\\ud83D\\uDe00\\n\",\"indent\":null\x7d ".toList) =
          .ok { library := some "😀\n" } ∧
      load "[ \"😀\\n\",null]" = .ok { library := some "😀\n" } ∧
      load "\x7b\"indent\":\"a\",\"x\":0,\"inden\\u0074\":null\x7d" =
        .error (.configInvalid "/w/c") ∧
      load "[\"a\"] 0" = .error (.configInvalid "/w/c") := by
  have hfile (t : Text) := config_is_read_as_spelled "/w"
    (.folder [("c", .file (.text t))]) (.text []) (some "c") t rfl
  have hx : Piece.Makes ("x".toList.map .char) "x" := Piece.makes_chars _
  have hlibrary : Piece.Makes (.unit 0x6C :: "ibrary".toList.map .char) "library" :=
    Piece.makes_of_text? (by simp) (by cbv)
  have hindent : Piece.Makes ("indent".toList.map .char) "indent" := Piece.makes_chars _
  have hescaped : Piece.Makes ("inden".toList.map .char ++ [.unit 0x74]) "indent" :=
    Piece.makes_of_text? (by simp) (by cbv)
  have hsmile : Piece.Makes [.unit 0xD83D, .unit 0xDE00, .char '\n'] "😀\n" :=
    Piece.makes_of_text? (by simp) (by cbv)
  have hne {ps : List Piece} {s t : Text} (h : Piece.Makes ps s) (hst : s ≠ t) :
      ¬ Piece.Makes ps t := fun h' => hst (h.unique h')
  intro load
  refine ⟨((hfile _).1 _).mpr ?_, ((hfile _).1 _).mpr ?_, ?_, ?_⟩
  · refine .object ?_ ?_ ?_ ?_ (read?_eq_some.mp (?_ : _ = some (JsonValue.object
      [("x".toList.map .char, .array [.number "1e3", .object
          [("indent".toList.map .char, .number "7")]]),
        (.unit 0x6C :: "ibrary".toList.map .char,
          .string [.unit 0xD83D, .unit 0xDE00, .char '\n']),
        ("indent".toList.map .char, .null)])))
    · rw [List.forall_mem_cons, List.forall_mem_cons, List.forall_mem_singleton]
      exact ⟨⟨_, hx⟩, ⟨_, hlibrary⟩, ⟨_, hindent⟩⟩
    · refine .other (hne hx (by decide)) (.here hlibrary (.text hsmile) ?_)
      rw [List.forall_mem_singleton]
      exact hne hindent (by decide)
    · refine .absent ?_
      rw [List.forall_mem_cons, List.forall_mem_cons, List.forall_mem_singleton]
      exact ⟨hne hx (by decide), hne hlibrary (by decide), hne hindent (by decide)⟩
    · exact .other (hne hx (by decide)) (.other (hne hlibrary (by decide))
        (.here hindent .null (by simp)))
    · cbv
  · refine .array ?_ ?_ ?_ ?_ (read?_eq_some.mp (?_ : _ = some (JsonValue.array
      [.string ("😀\n".toList.map .char), .null])))
    · simp
    · exact .text (Piece.makes_chars _)
    · exact .null
    · exact .absent
    · cbv
  · exact (hfile _).2.2.1 [("indent".toList.map .char, .string ("a".toList.map .char)),
      ("x".toList.map .char, .number "0"),
      ("inden".toList.map .char ++ [.unit 0x74], .null)] _ _ (read?_eq_some.mp (by cbv))
      (.cons_cons _ (.cons _ (.cons_cons _ .slnil))) "indent" (by simp [Config.knownKeys])
      hindent hescaped
  · have hbody : Body [.char 'a'] ['a'] := .char (by decide) (by decide) (by decide) .nil
    have harray := Spells.array (.last (.intro isBlank_nil (.string hbody) isBlank_nil))
    exact (hfile _).2.2.2 _ [] _ " 0" isBlank_nil harray (by simp [IsBlank, isSpace])
      (by decide)

end ComponentDecl
