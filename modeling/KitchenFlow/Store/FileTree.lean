import KitchenFlow.Text.Split

/-!
# File trees

A file tree says what stands at which place: a folder, a file with its bytes, or nothing. A place
is the list of the names on the way from the root. Paths are the texts by which places are named. A
path that begins with `/` starts at the root, any other at the home of the tree. To follow a path,
one goes step by step, and whatever is gone through has to be a folder; the steps `.` and `..` stay
and go back.

Reading fails or gives bytes; a change fails or gives the tree after it. Only `makeFolders` and
`save` can leave something behind when they fail. What the tree does not tell, namely that the
device on which it is kept fails, is told by a `Device`.
-/

namespace KitchenFlow

/-- What stands at a place of a file tree. -/
inductive FileEntry where
  | folder
  | file (bytes : List UInt8)
deriving DecidableEq, Repr

/-- A file with a text. -/
abbrev FileEntry.text (s : String) : FileEntry := .file s.toUTF8.toList

/-- A place: the names on the way from the root. -/
abbrev FilePlace := List String

/-- A file tree. -/
structure FileTree where
  entries : List (FilePlace × FileEntry)
  /-- Where paths start that do not start at the root. -/
  home : FilePlace
deriving Repr, Inhabited

/-- Why something cannot be done in a file tree. -/
inductive FileError where
  | absent
  | occupied
  | notFolder
  | isFolder
  | nameTooLong
  | zeroInName
  | notText
  /-- The device fails. -/
  | device (message : String)
deriving DecidableEq, Repr

/-- The wording of a failure. -/
def FileError.message : FileError → String
  | .absent => "No such file or directory (os error 2)"
  | .occupied => "File exists (os error 17)"
  | .notFolder => "Not a directory (os error 20)"
  | .isFolder => "Is a directory (os error 21)"
  | .nameTooLong => "File name too long (os error 36)"
  | .zeroInName => "file name contained an unexpected NUL byte"
  | .notText => "stream did not contain valid UTF-8"
  | .device message => message

/-- How a device takes it when a file is written. -/
inductive Writing where
  | done
  /-- The file is not opened. -/
  | refused (message : String)
  /-- The device gives up after so many bytes, and these are what the file then holds. -/
  | torn (message : String) (kept : Nat)
deriving DecidableEq, Repr

/-- How a device takes it when a file is read, another is written and moved over it: where it fails,
it does so with a message. -/
structure Device where
  reading : Option String
  writing : Writing
  moving : Option String
deriving DecidableEq, Repr

namespace Device

/-- A device that does not fail. -/
def sound : Device := ⟨none, .done, none⟩

/-- What comes of a request that a device may fail. -/
def attempt (failure : Option String) (r : Except FileError α) : Except FileError α :=
  match failure with
  | none => r
  | some message => .error (.device message)

end Device

/-! ### Paths -/

namespace FilePath

/-- A path below a folder; a path from the root stands for itself. -/
def join (folder path : String) : String :=
  if path.startsWith "/" then path
  else if folder == "" || folder.endsWith "/" then folder ++ path
  else folder ++ "/" ++ path

/-- The steps of a path. -/
def steps (path : String) : List String := (Text.splitAt '/' path).filter (· ≠ "")

/-- The name before its extension, and the extension. A dot at the beginning of a name starts no
extension. -/
def cutExtension (name : String) : String × Option String :=
  match Text.cutLast? '.' name with
  | some (stem, extension) => if stem == "" then (name, none) else (stem, some extension)
  | none => (name, none)

/-- The same path with another extension of its last name. -/
def withExtension (path extension : String) : String :=
  match Text.cutLast? '/' path with
  | some (folder, name) => folder ++ "/" ++ (cutExtension name).1 ++ "." ++ extension
  | none => (cutExtension path).1 ++ "." ++ extension

/-- The steps to the folder that holds what the steps lead to. -/
def holder (steps : List String) : List String :=
  (steps.reverse.dropWhile (· == ".")).reverse.dropLast

theorem length_holder_lt {steps : List String} (h : steps ≠ []) :
    (holder steps).length < steps.length := by
  have hw : (steps.reverse.dropWhile (· == ".")).length ≤ steps.length := by
    simpa using (List.dropWhile_sublist (l := steps.reverse) (· == ".")).length_le
  have hs : 0 < steps.length := List.length_pos_iff.mpr h
  simp only [holder, List.length_dropLast, List.length_reverse]
  omega

/-- The most bytes a name may have. -/
def nameLimit : Nat := 255

end FilePath

/-! ### Looking -/

namespace FileTree

/-- The tree with nothing below its root, which is its home too. -/
def empty : FileTree := ⟨[], []⟩

/-- What stands at a place. The root is a folder. -/
def at? (t : FileTree) (p : FilePlace) : Option FileEntry :=
  if p = [] then some .folder else t.entries.lookup p

/-- Follows steps from a place. Whatever is gone through has to be a folder; at the end there may be
nothing. -/
def follow (t : FileTree) : FilePlace → List String → Except FileError FilePlace
  | p, [] => .ok p
  | p, s :: rest =>
    match t.at? p with
    | none => .error .absent
    | some (.file _) => .error .notFolder
    | some .folder =>
      if s = "." then t.follow p rest
      else if s = ".." then t.follow p.dropLast rest
      else if FilePath.nameLimit < s.utf8ByteSize then .error .nameTooLong
      else t.follow (p ++ [s]) rest

/-- Where a path starts. -/
def start (t : FileTree) (path : String) : FilePlace :=
  if path.startsWith "/" then [] else t.home

/-- Follows steps from where a path starts. -/
def locate (t : FileTree) (path : String) (steps : List String) : Except FileError FilePlace :=
  if path.toList.contains '\x00' then .error .zeroInName
  else if path == "" then .error .absent
  else t.follow (t.start path) steps

/-- The place a path leads to. A path that ends in `/` leads to a folder, or nowhere. -/
def place (t : FileTree) (path : String) : Except FileError FilePlace :=
  t.locate path (FilePath.steps path ++ if path.endsWith "/" then ["."] else [])

/-- The bytes of the file at a path. -/
def contents (t : FileTree) (path : String) : Except FileError (List UInt8) := do
  match t.at? (← t.place path) with
  | none => .error .absent
  | some .folder => .error .isFolder
  | some (.file bytes) => .ok bytes

/-- The text of the file at a path. -/
def read (t : FileTree) (path : String) : Except FileError String := do
  match String.fromUTF8? ⟨(← t.contents path).toArray⟩ with
  | some text => .ok text
  | none => .error .notText

/-- The names in the folder at a place, in ascending order. -/
def namesAt (t : FileTree) (p : FilePlace) : List String :=
  (t.entries.filterMap fun (q, _) => if q.dropLast = p then q.getLast? else none).mergeSort
    fun a b => a ≤ b

/-- The names in the folder at a path. -/
def names (t : FileTree) (path : String) : Except FileError (List String) := do
  let p ← t.place path
  match t.at? p with
  | none => .error .absent
  | some (.file _) => .error .notFolder
  | some .folder => .ok (t.namesAt p)

/-! ### Changing -/

/-- The tree with something else at a place. -/
def put (t : FileTree) (p : FilePlace) (e : FileEntry) : FileTree :=
  { t with entries := (p, e) :: t.entries.filter fun q => q.1 ≠ p }

/-- The tree with nothing at a place. -/
def erase (t : FileTree) (p : FilePlace) : FileTree :=
  { t with entries := t.entries.filter fun q => q.1 ≠ p }

theorem lookup_filter_ne {κ α : Type} [BEq κ] [LawfulBEq κ] [DecidableEq κ] (l : List (κ × α))
    (p q : κ) : (l.filter fun e => e.1 ≠ p).lookup q = if q = p then none else l.lookup q := by
  induction l with
  | nil => simp
  | cons e rest ih =>
    obtain ⟨k, v⟩ := e
    by_cases hk : k = p
    · subst hk
      rw [List.filter_cons_of_neg (by simp), ih, List.lookup_cons]
      split
      · rfl
      · next h => simp [beq_eq_false_iff_ne.mpr h]
    · rw [List.filter_cons_of_pos (by simpa using hk), List.lookup_cons, ih, List.lookup_cons]
      by_cases hq : q = k
      · subst hq; simp [hk]
      · simp [beq_eq_false_iff_ne.mpr hq]

/-- What was put is there, and all else is as before. -/
theorem at?_put {t : FileTree} {p : FilePlace} (e : FileEntry) (q : FilePlace) (hp : p ≠ []) :
    (t.put p e).at? q = if q = p then some e else t.at? q := by
  unfold at? put
  by_cases hq : q = []
  · subst hq; simp [hp.symm]
  · rw [if_neg hq, if_neg hq, List.lookup_cons, lookup_filter_ne]
    by_cases h : q = p
    · simp [h]
    · simp [h, beq_eq_false_iff_ne.mpr h]

/-- What was erased is gone, and all else is as before. -/
theorem at?_erase {t : FileTree} {p : FilePlace} (q : FilePlace) (hp : p ≠ []) :
    (t.erase p).at? q = if q = p then none else t.at? q := by
  unfold at? erase
  by_cases hq : q = []
  · subst hq; simp [hp.symm]
  · rw [if_neg hq, if_neg hq, lookup_filter_ne]

/-- The place of the file that is to be written at a path. A path that ends in `/` is no path of a
file. -/
def target (t : FileTree) (path : String) : Except FileError FilePlace := do
  let p ← t.locate path (FilePath.steps path)
  if path.endsWith "/" then .error .isFolder
  else
    match t.at? p with
    | some .folder => .error .isFolder
    | _ => .ok p

/-- Writes bytes to the file at a path, in the place of what it held. A device that gives up leaves
the part of them that it has come to. -/
def save (t : FileTree) (path : String) (bytes : List UInt8) (writing : Writing) :
    Except FileError Unit × FileTree :=
  match t.target path with
  | .error e => (.error e, t)
  | .ok p =>
    match writing with
    | .done => (.ok (), t.put p (.file bytes))
    | .refused message => (.error (.device message), t)
    | .torn message kept => (.error (.device message), t.put p (.file (bytes.take kept)))

/-- The tree with a file of the given text at a path, on a device that does not fail. -/
def write (t : FileTree) (path text : String) : Except FileError FileTree :=
  match t.save path text.toUTF8.toList .done with
  | (.ok (), t) => .ok t
  | (.error e, _) => .error e

@[simp] theorem put_home (t : FileTree) (p : FilePlace) (e : FileEntry) :
    (t.put p e).home = t.home := rfl

@[simp] theorem erase_home (t : FileTree) (p : FilePlace) : (t.erase p).home = t.home := rfl

/-- The tree with a file moved to another path, over what file may stand there. -/
def move (t : FileTree) (source target : String) : Except FileError FileTree := do
  let p ← t.place source
  let q ← t.place target
  match t.at? p, t.at? q with
  | none, _ => .error .absent
  | some .folder, _ => .error .isFolder
  | _, some .folder => .error .isFolder
  | some (.file bytes), _ => .ok ((t.erase p).put q (.file bytes))

/-- The tree with a new folder where steps lead from a place. -/
def makeFolder (t : FileTree) (p : FilePlace) (steps : List String) :
    Except FileError FileTree := do
  let q ← t.follow p steps
  match t.at? q with
  | some _ => .error .occupied
  | none => .ok (t.put q .folder)

/-- Whether steps lead to a folder. -/
def leadsToFolder (t : FileTree) (p : FilePlace) (steps : List String) : Bool :=
  match t.follow p steps with
  | .ok q => t.at? q == some .folder
  | .error _ => false

/-- A folder that is there already is as good as a new one. -/
def ensureFolder (t : FileTree) (p : FilePlace) (steps : List String) :
    Except FileError FileTree :=
  match t.makeFolder p steps with
  | .ok t => .ok t
  | .error e => if t.leadsToFolder p steps then .ok t else .error e

/-- Makes sure that steps lead to a folder: where one cannot be made for want of the folder that is
to hold it, that one is made first. -/
def makeFoldersAlong (t : FileTree) (p : FilePlace) (steps : List String) :
    Except FileError Unit × FileTree :=
  match t.makeFolder p steps with
  | .ok t => (.ok (), t)
  | .error .absent =>
    if _h : steps = [] then (.error .absent, t)
    else
      match t.makeFoldersAlong p (FilePath.holder steps) with
      | (.error e, t) => (.error e, t)
      | (.ok (), t) =>
        match t.ensureFolder p steps with
        | .ok t => (.ok (), t)
        | .error e => (.error e, t)
  | .error e => if t.leadsToFolder p steps then (.ok (), t) else (.error e, t)
termination_by steps.length
decreasing_by exact FilePath.length_holder_lt _h

/-- Makes sure that a path leads to a folder. -/
def makeFolders (t : FileTree) (path : String) : Except FileError Unit × FileTree :=
  if path.toList.contains '\x00' then (.error .zeroInName, t)
  else t.makeFoldersAlong (t.start path) (FilePath.steps path)

/-! ### Survey -/

/-- What stands in a tree otherwise than in the tree before. -/
def changesSince (t before : FileTree) : List (FilePlace × FileEntry) :=
  t.entries.filter fun e => before.at? e.1 != some e.2

/-- All that stands below a place, relative to it and in ascending order; folders end in `/`. -/
def survey (t : FileTree) (p : FilePlace) : List String :=
  let below : FilePlace × FileEntry → Option String
    | (q, e) =>
      if p.isPrefixOf q && q ≠ p then
        let name := Text.join "/" (q.drop p.length)
        some (match e with
          | .folder => name ++ "/"
          | .file _ => name)
      else none
  (t.entries.filterMap below).mergeSort fun a b => a ≤ b

end FileTree
end KitchenFlow
