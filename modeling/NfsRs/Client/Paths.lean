import NfsRs.Error

/-!
# NfsRs — the components of a path

`lookup_path` takes a path apart in three ways. NFSv3 normalizes it with `path_clean::clean` and
skips what is not a component; NFSv4.1 splits at the slashes and skips `.`; NFSv4.0 splits at the
slashes. `split_path` normalizes under a sentinel, `/=/`, and asks whether the sentinel is still
there.

None of them rejects a path that climbs above the mount root before it sends a LOOKUP, and only
NFSv3 resolves `..` itself. On paths where these differences do not show, all three look up the
lexical normalization, and `split_path` cuts its last component off.

## Main results

- `lookupPath_confined` : the paths on which a version keeps to the lexical normalization, exactly.
- `lookupPath_unconfined` : paths on which `..` is sent.
-/

namespace NfsRs.Client.Paths

/-- A component of a path. -/
abbrev Name := List Char

def dot : Name := ['.']

def dotdot : Name := ['.', '.']

def backslash : Name := ['\\']

/-- The first component of the prefix that `split_path` adds. -/
def sentinel : Name := ['=']

/-- `str::split('/')`. -/
def splitSlash : List Char → List Name
  | [] => [[]]
  | c :: cs =>
      if c = '/' then [] :: splitSlash cs
      else match splitSlash cs with
        | [] => [[c]]
        | w :: ws => (c :: w) :: ws

/-- The parts of a path that are not empty. -/
def parts (path : List Char) : List Name := (splitSlash path).filter fun w => w ≠ []

/-! ## Lexical normalization -/

/-- One component under a root that cannot be left; the components so far, last one first. -/
def normalStep (out : List Name) (c : Name) : Option (List Name) :=
  if c = dot then some out
  else if c = dotdot then match out with
    | [] => none
    | _ :: rest => some rest
  else some (c :: out)

/-- The components under the mount root, or `none` for a path that climbs above it. -/
def normalize (comps : List Name) : Option (List Name) :=
  (comps.foldlM normalStep []).map List.reverse

/-- One component of `path_clean::clean`. -/
def cleanStep (absolute : Bool) (out : List Name) (c : Name) : List Name :=
  if c = dot then out
  else if c = dotdot then match out with
    | [] => if absolute then [] else [dotdot]
    | top :: rest => if top = dotdot then dotdot :: top :: rest else rest
  else c :: out

/-- The components that `path_clean::clean` leaves. -/
def clean (absolute : Bool) (comps : List Name) : List Name :=
  (comps.foldl (cleanStep absolute) []).reverse

/-! ## The three versions -/

/-- The implementations of `Mount`. -/
inductive Protocol where
  | nfs3 | nfs40 | nfs41
  deriving DecidableEq, Repr

/-- The components that `lookup_path` looks up, one after another. -/
def components (version : Protocol) (path : List Char) : List Name :=
  match version with
  | .nfs3 => (clean (path.head? == some '/') (parts path)).filter fun n => n ≠ backslash
  | .nfs40 => parts path
  | .nfs41 => (parts path).filter fun n => n ≠ dot

/-- The text of components, each after a slash. -/
def render (names : List Name) : List Char := names.flatMap fun n => '/' :: n

def invalidPath : NfsError := .invalidInput "invalid path specified"

def splitPath (path : List Char) : Except NfsError (List Char × Name) :=
  match clean true (sentinel :: parts path) with
  | [] => .error invalidPath
  | first :: names =>
      if first ≠ sentinel then .error invalidPath
      else match names.getLast? with
        | none => .ok (['/'], [])
        | some name => .ok (render names.dropLast, name)

section Lookup

variable {Fh E : Type} (lookup : Fh → Name → Except E Fh)

/-- One LOOKUP after another: the names sent, and the object or the first error. -/
def lookupEach (fh : Fh) : List Name → List Name × Except E Fh
  | [] => ([], .ok fh)
  | n :: ns =>
      match lookup fh n with
      | .error e => ([n], .error e)
      | .ok next => (n :: (lookupEach next ns).1, (lookupEach next ns).2)

/-- `lookup_path`: NFSv4.1 sends every name in one COMPOUND, the others one call for each. -/
def lookupPath (version : Protocol) (root : Fh) (path : List Char) : List Name × Except E Fh :=
  match version with
  | .nfs41 => (components .nfs41 path, (lookupEach lookup root (components .nfs41 path)).2)
  | version => lookupEach lookup root (components version path)

theorem lookupEach_sent (fh : Fh) (names : List Name) :
    (lookupEach lookup fh names).1 <+: names ∧
      ∀ found, (lookupEach lookup fh names).2 = .ok found →
        (lookupEach lookup fh names).1 = names := by
  induction names generalizing fh with
  | nil => exact ⟨List.prefix_refl _, fun _ _ => rfl⟩
  | cons n ns ih =>
      unfold lookupEach
      split
      next => exact ⟨(List.cons_prefix_cons).mpr ⟨rfl, List.nil_prefix⟩, nofun⟩
      next next _ =>
        obtain ⟨hPrefix, hAll⟩ := ih next
        refine ⟨(List.cons_prefix_cons).mpr ⟨rfl, hPrefix⟩, fun found hFound => ?_⟩
        rw [hAll found hFound]

/-- A server that has every name is asked for all of them. -/
theorem lookupEach_found (names : List Name) :
    lookupEach (fun (_ : Unit) _ => (.ok () : Except Unit Unit)) () names = (names, .ok ()) := by
  induction names with
  | nil => rfl
  | cons n ns ih => simp [lookupEach, ih]

theorem lookupPath_found (version : Protocol) (path : List Char) :
    lookupPath (fun (_ : Unit) _ => (.ok () : Except Unit Unit)) version () path =
      (components version path, .ok ()) := by
  cases version <;> simp only [lookupPath, lookupEach_found]

theorem lookupPath_sent (version : Protocol) (root : Fh) (path : List Char) :
    (lookupPath lookup version root path).1 <+: components version path ∧
      ∀ found, (lookupPath lookup version root path).2 = .ok found →
        (lookupPath lookup version root path).1 = components version path := by
  cases version with
  | nfs3 => exact lookupEach_sent lookup root _
  | nfs40 => exact lookupEach_sent lookup root _
  | nfs41 => exact ⟨List.prefix_refl _, fun _ _ => rfl⟩

end Lookup

/-! ## Text and components -/

/-- A component as it stands between two slashes. -/
def IsPart (n : Name) : Prop := n ≠ [] ∧ '/' ∉ n

theorem slash_not_mem_splitSlash (path : List Char) : ∀ w ∈ splitSlash path, '/' ∉ w := by
  induction path with
  | nil => simp [splitSlash]
  | cons c cs ih => grind [splitSlash]

variable {comps names : List Name} {path : List Char} {w : Name} {version : Protocol}

theorem isPart_of_mem_parts {n : Name} (h : n ∈ parts path) : IsPart n := by
  obtain ⟨hMem, hNe⟩ := List.mem_filter.mp h
  exact ⟨by simpa using hNe, slash_not_mem_splitSlash path n hMem⟩

/-- A component ends at the first slash. -/
theorem splitSlash_append (h : '/' ∉ w) (rest : List Char) :
    splitSlash (w ++ '/' :: rest) = w :: splitSlash rest := by
  induction w with
  | nil => simp [splitSlash]
  | cons c cs ih =>
      obtain ⟨hc, hcs⟩ := List.ne_and_not_mem_of_not_mem_cons h
      simp [splitSlash, Ne.symm hc, ih hcs]

theorem splitSlash_of_not_mem (h : '/' ∉ w) : splitSlash w = [w] := by
  induction w with
  | nil => rfl
  | cons c cs ih =>
      obtain ⟨hc, hcs⟩ := List.ne_and_not_mem_of_not_mem_cons h
      simp [splitSlash, Ne.symm hc, ih hcs]

/-- Before the text of components stands one empty part, or the end of the part before. -/
theorem splitSlash_render (h : ∀ n ∈ names, '/' ∉ n) (hw : '/' ∉ w) :
    splitSlash (w ++ render names) = w :: names := by
  induction names generalizing w with
  | nil => simpa [render] using splitSlash_of_not_mem hw
  | cons n ns ih =>
      have hText : w ++ render (n :: ns) = w ++ '/' :: (n ++ render ns) := by simp [render]
      rw [hText, splitSlash_append hw, ih (fun m hm => h m (List.mem_cons_of_mem _ hm))
        (h n List.mem_cons_self)]

theorem parts_render (h : ∀ n ∈ names, IsPart n) : parts (render names) = names := by
  have hSplit := splitSlash_render (w := []) (fun n hn => (h n hn).2) List.not_mem_nil
  rw [List.nil_append] at hSplit
  rw [parts, hSplit, List.filter_cons_of_neg (by simp)]
  exact List.filter_eq_self.mpr fun n hn => by simpa using (h n hn).1

/-! ## Normalization and the versions -/

/-- What one component adds or takes away, as long as the root is not left. -/
theorem normalStep_spec {out next : List Name} {c : Name} (h : normalStep out c = some next)
    (hOut : dotdot ∉ out) :
    (∀ absolute base, cleanStep absolute (out ++ base) c = next ++ base) ∧ dotdot ∉ next ∧
      (dot ∉ out → dot ∉ next) ∧ ∀ n ∈ next, n ∈ out ∨ n = c := by
  unfold normalStep at h
  split at h
  next hDot =>
    cases h
    exact ⟨fun _ _ => by simp [cleanStep, hDot], hOut, id, fun _ => .inl⟩
  next hDot =>
    split at h
    next hUp =>
      cases out with
      | nil => cases h
      | cons top rest =>
          cases h
          obtain ⟨hTop, hRest⟩ := List.ne_and_not_mem_of_not_mem_cons hOut
          have hNe : dotdot ≠ dot := by decide
          exact ⟨fun _ _ => by simp [cleanStep, hUp, hNe, Ne.symm hTop], hRest,
            fun h hMem => h (List.mem_cons_of_mem _ hMem),
            fun _ hMem => .inl (List.mem_cons_of_mem _ hMem)⟩
    next hUp =>
      cases h
      refine ⟨fun _ _ => by simp [cleanStep, hDot, hUp], ?_, fun h => ?_, fun n hMem => ?_⟩
      · exact List.not_mem_cons_of_ne_of_not_mem (fun hEq => hUp hEq.symm) hOut
      · exact List.not_mem_cons_of_ne_of_not_mem (fun hEq => hDot hEq.symm) h
      · exact (List.mem_cons.mp hMem).symm

/-- The invariant of the walk over the components. -/
theorem normalSteps_spec {out next : List Name} (h : comps.foldlM normalStep out = some next)
    (hOut : dotdot ∉ out) (hDot : dot ∉ out) :
    (∀ absolute base, comps.foldl (cleanStep absolute) (out ++ base) = next ++ base) ∧
      dotdot ∉ next ∧ dot ∉ next ∧ ∀ n ∈ next, n ∈ out ∨ n ∈ comps := by
  induction comps generalizing out with
  | nil =>
      cases h
      exact ⟨fun _ _ => rfl, hOut, hDot, fun _ => .inl⟩
  | cons c cs ih =>
      rw [List.foldlM_cons] at h
      obtain ⟨mid, hStep, hRest⟩ := Option.bind_eq_some_iff.mp h
      obtain ⟨hClean, hMid, hMidDot, hFrom⟩ := normalStep_spec hStep hOut
      obtain ⟨hCleans, hNext, hNextDot, hFroms⟩ := ih hRest hMid (hMidDot hDot)
      refine ⟨fun absolute base => ?_, hNext, hNextDot, fun n hn => ?_⟩
      · rw [List.foldl_cons, hClean, hCleans]
      · rcases hFroms n hn with hIn | hIn
        · rcases hFrom n hIn with hOld | rfl
          · exact .inl hOld
          · exact .inr List.mem_cons_self
        · exact .inr (List.mem_cons_of_mem _ hIn)

/-- What a normalization is: no dots are left, and `clean` agrees, under any prefix. -/
structure Normal (comps names : List Name) : Prop where
  dotdot : dotdot ∉ names
  dot : dot ∉ names
  mem : ∀ n ∈ names, n ∈ comps
  clean : ∀ absolute, clean absolute comps = names
  sentinel : Paths.clean true (sentinel :: comps) = sentinel :: names

theorem normal_of_normalize (h : normalize comps = some names) : Normal comps names := by
  obtain ⟨out, hOut, rfl⟩ := Option.map_eq_some_iff.mp h
  obtain ⟨hClean, hUp, hDot, hFrom⟩ := normalSteps_spec hOut List.not_mem_nil List.not_mem_nil
  refine ⟨by simpa using hUp, by simpa using hDot, fun n hn => ?_, fun absolute => ?_, ?_⟩
  · exact (hFrom n (List.mem_reverse.mp hn)).resolve_left List.not_mem_nil
  · have hFold := hClean absolute []
    simp only [List.append_nil] at hFold
    rw [clean, hFold]
  · have hFold := hClean true [sentinel]
    have hFirst : cleanStep true [] sentinel = [sentinel] := rfl
    rw [clean, List.foldl_cons, hFirst, ← List.nil_append [sentinel], hFold]
    simp

theorem foldlM_normalStep (h : dotdot ∉ comps) (out : List Name) :
    comps.foldlM normalStep out =
      some ((comps.filter fun n => n ≠ dot).reverse ++ out) := by
  induction comps generalizing out with
  | nil => rfl
  | cons c cs ih =>
      obtain ⟨hc, hcs⟩ := List.ne_and_not_mem_of_not_mem_cons h
      rw [List.foldlM_cons]
      by_cases hDot : c = dot
      · have hStep : normalStep out c = some out := by simp [normalStep, hDot]
        rw [hStep, Option.bind_eq_bind, Option.bind_some, ih hcs]
        simp [hDot]
      · have hStep : normalStep out c = some (c :: out) := by
          simp [normalStep, hDot, Ne.symm hc]
        rw [hStep, Option.bind_eq_bind, Option.bind_some, ih hcs]
        simp [hDot]

theorem normalize_of_not_mem (h : dotdot ∉ comps) :
    normalize comps = some (comps.filter fun n => n ≠ dot) := by
  simp [normalize, foldlM_normalStep h]

/-- Components that are their own normalization are looked up as they stand. -/
theorem components_render (hPart : ∀ n ∈ names, IsPart n) (hUp : dotdot ∉ names)
    (hDot : dot ∉ names) (version : Protocol) (hBackslash : version = .nfs3 → backslash ∉ names) :
    components version (render names) = names := by
  have hFilter : (names.filter fun n => n ≠ dot) = names :=
    List.filter_eq_self.mpr fun n hn => by
      simp only [decide_eq_true_eq]
      rintro rfl
      exact hDot hn
  have hNormal : normalize names = some names := by rw [normalize_of_not_mem hUp, hFilter]
  cases version with
  | nfs3 =>
      simp only [components, parts_render hPart, (normal_of_normalize hNormal).clean]
      refine List.filter_eq_self.mpr fun n hn => ?_
      simp only [decide_eq_true_eq]
      rintro rfl
      exact hBackslash rfl hn
  | nfs40 => exact parts_render hPart
  | nfs41 => rw [components, parts_render hPart, hFilter]

/-! ## Confinement -/

/-- The paths on which a version looks up the lexical normalization. NFSv3 skips a component
that is one backslash; NFSv4.1 sends `..`, and NFSv4.0 also `.`, as they stand. -/
def Confinable (version : Protocol) (path : List Char) : Prop :=
  match version with
  | .nfs3 => ∃ names, normalize (parts path) = some names ∧ backslash ∉ names
  | .nfs40 => dotdot ∉ parts path ∧ dot ∉ parts path
  | .nfs41 => dotdot ∉ parts path

/-- Within the condition the components are the lexical normalization. -/
theorem components_of_confinable (h : Confinable version path) :
    normalize (parts path) = some (components version path) ∧
      (version = .nfs3 → backslash ∉ components version path) := by
  cases version with
  | nfs3 =>
      obtain ⟨names, hNames, hBackslash⟩ := h
      have hFilter : (names.filter fun n => n ≠ backslash) = names :=
        List.filter_eq_self.mpr fun n hn => by
          simp only [decide_eq_true_eq]
          rintro rfl
          exact hBackslash hn
      have hComponents : components .nfs3 path = names := by
        rw [components, (normal_of_normalize hNames).clean, hFilter]
      exact ⟨by rw [hNames, hComponents], fun _ => by rwa [hComponents]⟩
  | nfs40 =>
      refine ⟨?_, nofun⟩
      rw [normalize_of_not_mem h.1, components, Option.some.injEq]
      refine List.filter_eq_self.mpr fun n hn => ?_
      simp only [decide_eq_true_eq]
      rintro rfl
      exact h.2 hn
  | nfs41 => exact ⟨normalize_of_not_mem h, nofun⟩

/-- A version that looks up the normalization has one of these paths. -/
theorem confinable_of_components (h : normalize (parts path) = some (components version path)) :
    Confinable version path := by
  have hNormal := normal_of_normalize h
  cases version with
  | nfs3 =>
      refine ⟨_, h, fun hMem => ?_⟩
      simpa using (List.mem_filter.mp hMem).2
  | nfs40 => exact ⟨hNormal.dotdot, hNormal.dot⟩
  | nfs41 =>
      refine fun hMem => hNormal.dotdot (List.mem_filter.mpr ⟨hMem, ?_⟩)
      decide

/-- `split_path` cuts off the last component of the normalization. -/
theorem splitPath_of_normal (h : Normal (parts path) names) :
    splitPath path = match names.getLast? with
      | none => .ok (['/'], [])
      | some name => .ok (render names.dropLast, name) := by
  simp [splitPath, h.sentinel]

/-- What is asked of a path. One that climbs above the root is rejected before anything is sent.
Of any other one only components of the lexical normalization are sent, all of them if the path
resolves, none of them `..`; and `split_path` gives a directory and a name that resolve to the same
components. -/
def Confined (version : Protocol) (path : List Char) : Prop :=
  match normalize (parts path) with
  | none => ∀ (Fh E : Type) (lookup : Fh → Name → Except E Fh) (root : Fh),
      (lookupPath lookup version root path).1 = [] ∧
        ∃ e, (lookupPath lookup version root path).2 = .error e
  | some names =>
      (∀ (Fh E : Type) (lookup : Fh → Name → Except E Fh) (root : Fh),
        (lookupPath lookup version root path).1 <+: names ∧
        dotdot ∉ (lookupPath lookup version root path).1 ∧
        ∀ found, (lookupPath lookup version root path).2 = .ok found →
          (lookupPath lookup version root path).1 = names) ∧
      ∃ dir name, splitPath path = .ok (dir, name) ∧
        components version dir ++ (if name = [] then [] else [name]) = names

theorem splitPath_resolves (hNormal : Normal (parts path) names)
    (hBackslash : version = .nfs3 → backslash ∉ names) :
    ∃ dir name, splitPath path = .ok (dir, name) ∧
      components version dir ++ (if name = [] then [] else [name]) = names := by
  have hPart : ∀ n ∈ names, IsPart n := fun n hn => isPart_of_mem_parts (hNormal.mem n hn)
  rw [splitPath_of_normal hNormal]
  cases hLast : names.getLast? with
  | none =>
      obtain rfl := List.getLast?_eq_none_iff.mp hLast
      exact ⟨_, _, rfl, by cases version <;> rfl⟩
  | some name =>
      obtain ⟨front, rfl⟩ := List.getLast?_eq_some_iff.mp hLast
      have hFront : ∀ n ∈ front, n ∈ front ++ [name] := fun n => List.mem_append_left _
      refine ⟨_, _, rfl, ?_⟩
      rw [List.dropLast_concat, components_render (fun n hn => hPart n (hFront n hn))
        (fun hMem => hNormal.dotdot (hFront _ hMem)) (fun hMem => hNormal.dot (hFront _ hMem))
        version (fun hv hMem => hBackslash hv (hFront _ hMem)),
        if_neg (hPart name (List.mem_append_right _ (List.mem_singleton_self _))).1]

/-- **Path confinement.** It holds of a path, whatever the server answers, exactly if the version
has that path among its `Confinable` ones. -/
theorem lookupPath_confined (version : Protocol) (path : List Char) :
    Confined version path ↔ Confinable version path := by
  constructor
  · intro h
    unfold Confined at h
    split at h
    next =>
      -- a server that has every name finds the object of a path that ought to be rejected
      obtain ⟨-, e, hError⟩ := h Unit Unit (fun _ _ => .ok ()) ()
      rw [lookupPath_found] at hError
      cases hError
    next names hNames =>
      have hAll := (h.1 Unit Unit (fun _ _ => .ok ()) ()).2.2 ()
      rw [lookupPath_found] at hAll
      exact confinable_of_components (hNames.trans (congrArg some (hAll rfl).symm))
  · intro h
    obtain ⟨hNames, hBackslash⟩ := components_of_confinable h
    have hNormal := normal_of_normalize hNames
    unfold Confined
    rw [hNames]
    refine ⟨fun Fh E lookup root => ?_, splitPath_resolves hNormal hBackslash⟩
    obtain ⟨hPrefix, hAll⟩ := lookupPath_sent lookup version root path
    exact ⟨hPrefix, fun hMem => hNormal.dotdot (hPrefix.subset hMem), hAll⟩

/-- Every version sends `..` for a path above the root, NFSv4 also for one that stays under it,
and `split_path` takes a path that climbs and comes back through the sentinel. -/
theorem lookupPath_unconfined :
    (∀ version, dotdot ∈
      (lookupPath (E := Unit) (fun _ n => .ok n) version [] "../x".toList).1) ∧
    (∀ version, version ≠ .nfs3 → dotdot ∈
      (lookupPath (E := Unit) (fun _ n => .ok n) version [] "a/../x".toList).1) ∧
    normalize (parts "../=/x".toList) = none ∧
    splitPath "../=/x".toList = .ok ([], ['x']) := by
  refine ⟨fun version => ?_, fun version hVersion => ?_, by decide, rfl⟩
  · cases version <;> decide
  · cases version with
    | nfs3 => exact absurd rfl hVersion
    | nfs40 => decide
    | nfs41 => decide

end NfsRs.Client.Paths
