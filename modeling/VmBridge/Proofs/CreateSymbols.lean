import Mathlib.Data.List.TakeWhile
import VmBridge.SymbolName

/-!
# What a library's path says about its create function

The name of a create function is made in four steps: the directories of a path are cut
off, then one leading "lib", then everything from the first dot on, and dashes become
underscores.  Each step is described by itself, and where two of them meet, at a dot
behind a short name, it matters that "lib" has no dot.  `createSymbol_determined` puts
them together: only the part of a file name before its first dot counts.
-/

namespace VmBridge

section Parts

variable (front back name : List Char) {stop : Char}

/-- What comes from the first stop on does not count. -/
theorem takeWhile_append_stop :
    (front ++ stop :: back).takeWhile (· ≠ stop) = front.takeWhile (· ≠ stop) := by
  induction front with
  | nil => simp
  | cons first front ih => simp only [List.cons_append, List.takeWhile_cons, ih]

variable {front back name}

theorem takeWhile_of_not_mem (absent : stop ∉ name) : name.takeWhile (· ≠ stop) = name :=
  List.takeWhile_eq_self_iff.mpr fun _ member =>
    decide_eq_true fun same => absent (same ▸ member)

theorem not_mem_takeWhile : stop ∉ name.takeWhile (· ≠ stop) := by
  intro member
  have other := List.mem_takeWhile_imp member
  exact of_decide_eq_true other rfl

/-- A beginning without stops is found before the first stop or not at all. -/
theorem prefix_append_stop {start : List Char} (absent : stop ∉ start) :
    start <+: front ++ stop :: back ↔ start <+: front := by
  constructor
  · intro begins
    refine List.prefix_of_prefix_length_le begins (List.prefix_append front _) ?_
    by_contra longer
    have reaches : front ++ [stop] <+: start := by
      refine List.prefix_of_prefix_length_le ?_ begins ?_
      · exact ⟨back, by simp⟩
      · rw [List.length_append, List.length_singleton]
        omega
    exact absent (reaches.subset (by simp))
  · exact fun begins => begins.trans (List.prefix_append front _)

end Parts

section FileNames

variable (directory path : List Char) {extension name : List Char}

theorem fileName_directory : fileName (directory ++ '/' :: path) = fileName path := by
  rw [fileName, fileName, List.reverse_append, List.reverse_cons, List.append_assoc,
    List.singleton_append, takeWhile_append_stop]

theorem fileName_append (flat : '/' ∉ extension) :
    fileName (path ++ extension) = fileName path ++ extension := by
  have whole : ∀ character ∈ extension.reverse, decide (character ≠ '/') = true :=
    fun character member => decide_eq_true fun same => flat (same ▸ List.mem_reverse.mp member)
  rw [fileName, fileName, List.reverse_append, List.takeWhile_append_of_pos whole,
    List.reverse_append, List.reverse_reverse]

theorem fileName_of_flat (flat : '/' ∉ name) : fileName name = name := by
  have absent : '/' ∉ name.reverse := fun member => flat (List.mem_reverse.mp member)
  rw [fileName, takeWhile_of_not_mem absent, List.reverse_reverse]

theorem slash_not_mem_fileName : '/' ∉ fileName path :=
  fun member => not_mem_takeWhile (List.mem_reverse.mp member)

end FileNames

section Names

variable {name : List Char}

/-- The three letters with which names of library files may begin. -/
def libLetters : List Char := ['l', 'i', 'b']

theorem withoutLib_append (rest : List Char) : withoutLib (libLetters ++ rest) = rest := rfl

theorem withoutLib_eq_self (other : ¬libLetters <+: name) : withoutLib name = name := by
  rw [withoutLib.eq_def]
  split
  · rename_i rest
    exact absurd (List.prefix_append libLetters rest) other
  · rfl

theorem withoutLib_subset : withoutLib name ⊆ name := by
  by_cases lib : libLetters <+: name
  · obtain ⟨rest, rfl⟩ := lib
    exact List.subset_append_right libLetters rest
  · rw [withoutLib_eq_self lib]
    exact List.Subset.refl name

/-- An extension stays behind whether or not a leading "lib" is taken off, and then it is cut
off. -/
theorem stem_withoutLib_extension (name extension : List Char) :
    stem (withoutLib (name ++ '.' :: extension)) = stem (withoutLib name) := by
  by_cases lib : libLetters <+: name
  · obtain ⟨rest, rfl⟩ := lib
    rw [List.append_assoc, withoutLib_append, withoutLib_append]
    exact takeWhile_append_stop rest extension
  · have other : ¬libLetters <+: name ++ '.' :: extension :=
      (prefix_append_stop (by decide)).not.mpr lib
    rw [withoutLib_eq_self lib, withoutLib_eq_self other]
    exact takeWhile_append_stop name extension

theorem dash_not_mem_withUnderscores : '-' ∉ withUnderscores name := by
  intro member
  obtain ⟨character, -, same⟩ := List.mem_map.mp member
  split at same
  · cases same
  · contradiction

theorem mem_of_mem_withUnderscores {character : Char} (member : character ∈ withUnderscores name)
    (other : character ≠ '_') : character ∈ name := by
  obtain ⟨original, present, same⟩ := List.mem_map.mp member
  split at same
  · exact absurd same.symm other
  · exact same ▸ present

end Names

section Paths

variable (directory path : List Char) {extension name : List Char}

theorem libraryName_directory : libraryName (directory ++ '/' :: path) = libraryName path := by
  rw [libraryName, libraryName, fileName_directory]

theorem libraryName_extension (flat : '/' ∉ extension) :
    libraryName (path ++ '.' :: extension) = libraryName path := by
  have flat_dot : '/' ∉ '.' :: extension := by simpa using flat
  rw [libraryName, libraryName, fileName_append path flat_dot, stem_withoutLib_extension]

/-- A name without directories and extensions loses one "lib" and its dashes. -/
theorem libraryName_of_plain (flat : '/' ∉ name) (bare : '.' ∉ name) :
    libraryName name = withUnderscores (withoutLib name) := by
  have bare_rest : '.' ∉ withoutLib name := fun member => bare (withoutLib_subset member)
  rw [libraryName, fileName_of_flat flat, stem, takeWhile_of_not_mem bare_rest]

theorem libraryName_symbols {character : Char} (member : character ∈ libraryName path) :
    character ≠ '/' ∧ character ≠ '.' ∧ character ≠ '-' := by
  have stem_subset : stem (withoutLib (fileName path)) ⊆ fileName path :=
    List.Subset.trans (List.takeWhile_prefix _).subset withoutLib_subset
  refine ⟨?_, ?_, ?_⟩
  · rintro rfl
    have present := mem_of_mem_withUnderscores member (by decide)
    exact slash_not_mem_fileName path (stem_subset present)
  · rintro rfl
    exact not_mem_takeWhile (mem_of_mem_withUnderscores member (by decide))
  · rintro rfl
    exact dash_not_mem_withUnderscores member

end Paths

/-- A name in which dashes have become underscores. -/
def undashed (name : String) : String := name.map fun character =>
  if character = '-' then '_' else character

theorem createSymbol_eq_of_libraryName {first second : String}
    (same : libraryName first.toList = libraryName second.toList) :
    createSymbol first = createSymbol second := by
  rw [createSymbol, createSymbol, same]

theorem createSymbol_of_plain {path name : String} (flat : '/' ∉ path.toList)
    (bare : '.' ∉ path.toList) (rest : withoutLib path.toList = name.toList) :
    createSymbol path = "qrvmc_create_" ++ undashed name := by
  have own : String.ofList (libraryName path.toList) = undashed name := by
    rw [libraryName_of_plain flat bare, rest, undashed, String.ext_iff, String.toList_map,
      String.toList_ofList, withUnderscores]
  rw [createSymbol, own, symbolStart]

/-- Neither a directory nor an extension makes a difference to the name of a create
function.  Its own part has no slash, no dot and no dash, and it is the name of the
library with underscores for dashes, without one leading "lib" but with any other. -/
theorem createSymbol_determined :
    (∀ directory name extension : String,
        createSymbol (directory ++ "/" ++ name ++ "." ++ extension) =
            createSymbol (name ++ "." ++ extension) ∧
          ('/' ∉ extension.toList →
            createSymbol (name ++ "." ++ extension) = createSymbol name)) ∧
      (∀ path, ∃ own, createSymbol path = "qrvmc_create_" ++ own ∧
        ∀ character ∈ own.toList, character ≠ '/' ∧ character ≠ '.' ∧ character ≠ '-') ∧
      ∀ name : String, '/' ∉ name.toList → '.' ∉ name.toList →
        createSymbol ("lib" ++ name) = "qrvmc_create_" ++ undashed name ∧
          (¬"lib".toList <+: name.toList →
            createSymbol name = "qrvmc_create_" ++ undashed name) := by
  refine ⟨fun directory name extension => ⟨?_, fun flat => ?_⟩, fun path => ?_,
    fun name flat bare => ⟨?_, fun other => ?_⟩⟩
  · apply createSymbol_eq_of_libraryName
    have parts : (directory ++ "/" ++ name ++ "." ++ extension).toList =
        directory.toList ++ '/' :: (name ++ "." ++ extension).toList := by simp
    rw [parts, libraryName_directory]
  · apply createSymbol_eq_of_libraryName
    have parts : (name ++ "." ++ extension).toList = name.toList ++ '.' :: extension.toList := by
      simp
    rw [parts, libraryName_extension name.toList flat]
  · refine ⟨String.ofList (libraryName path.toList), rfl, fun character member => ?_⟩
    rw [String.toList_ofList] at member
    exact libraryName_symbols path.toList member
  · have parts : ("lib" ++ name).toList = libLetters ++ name.toList := by
      rw [String.toList_append]
      rfl
    apply createSymbol_of_plain
    · rw [parts]
      simpa [libLetters] using flat
    · rw [parts]
      simpa [libLetters] using bare
    · rw [parts, withoutLib_append]
  · exact createSymbol_of_plain flat bare (withoutLib_eq_self other)

theorem undashed_eq {name other : String} (same : withUnderscores name.toList = other.toList) :
    undashed name = other := by
  rw [undashed, String.ext_iff, String.toList_map]
  exact same

/-- Of a library in a directory with a dot in its name, with two extensions and two "lib"s
in its own, one "lib" is left; a name of another kind is only rid of its dash. -/
theorem createSymbol_doublePrefix :
    '/' ∉ "so.1".toList ∧ ('/' ∉ "lib-x".toList ∧ '.' ∉ "lib-x".toList) ∧
      createSymbol "/opt.d/liblib-x.so.1" = "qrvmc_create_lib_x" ∧
      ('/' ∉ "a-b".toList ∧ '.' ∉ "a-b".toList ∧ ¬"lib".toList <+: "a-b".toList) ∧
      createSymbol "a-b" = "qrvmc_create_a_b" := by
  obtain ⟨indifferent, _, named⟩ := createSymbol_determined
  have flat : '/' ∉ "so.1".toList := by decide
  have plain : '/' ∉ "lib-x".toList ∧ '.' ∉ "lib-x".toList := by decide
  have other : '/' ∉ "a-b".toList ∧ '.' ∉ "a-b".toList ∧ ¬"lib".toList <+: "a-b".toList := by
    decide
  have undashed_plain : undashed "lib-x" = "lib_x" := undashed_eq (by decide)
  have undashed_other : undashed "a-b" = "a_b" := undashed_eq (by decide)
  obtain ⟨directories, extensions⟩ := indifferent "/opt.d" "liblib-x" "so.1"
  refine ⟨flat, plain, ?_, other, ?_⟩
  · calc createSymbol "/opt.d/liblib-x.so.1"
        = createSymbol ("liblib-x" ++ "." ++ "so.1") := directories
      _ = createSymbol ("lib" ++ "lib-x") := extensions flat
      _ = "qrvmc_create_" ++ undashed "lib-x" := (named "lib-x" plain.1 plain.2).1
      _ = "qrvmc_create_lib_x" := by rw [undashed_plain]; rfl
  · calc createSymbol "a-b"
        = "qrvmc_create_" ++ undashed "a-b" := (named "a-b" other.1 other.2.1).2 other.2.2
      _ = "qrvmc_create_a_b" := by rw [undashed_other]; rfl

end VmBridge
