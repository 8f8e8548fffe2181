/-! Files and directories around a working directory.

A place is told by the names on the way to it. Paths are followed name by name, so that what is passed on the
way, also by a single dot, has to be a directory that exists; going up from a directory is always possible. -/

namespace AttributeRules

/-- Why the system refuses an operation on files. -/
inductive OsError
  | notFound
  | alreadyExists
  | notDirectory
  | isDirectory
  | nameTooLong
  /-- A path with a character that ends it early; it does not get to the system, so the error has no number. -/
  | nulInPath
  deriving DecidableEq, Repr

def OsError.message : OsError → String
  | .notFound => "No such file or directory (os error 2)"
  | .alreadyExists => "File exists (os error 17)"
  | .notDirectory => "Not a directory (os error 20)"
  | .isDirectory => "Is a directory (os error 21)"
  | .nameTooLong => "File name too long (os error 36)"
  | .nulInPath => "file name contained an unexpected NUL byte"

/-- The names on the way to a file or directory, from the working directory or, after a name `/`, from the
root. Only the first names can be `..`. -/
abbrev Place := List String

namespace Place

/-- The working directory, the root, and the directories above the working directory, which always exist. -/
def isAnchor (p : Place) : Bool := p == ["/"] || p.all (· == "..")

/-- The place that a name leads to from a directory. -/
def step (p : Place) (name : String) : Place :=
  if name = "." then p
  else if name ≠ ".." then p ++ [name]
  else if p == ["/"] then p
  else if p.isAnchor then ".." :: p
  else p.dropLast

end Place

abbrev Path := String

def Place.toPath : Place → Path
  | "/" :: rest => "/" ++ String.intercalate "/" rest
  | p => String.intercalate "/" p

namespace Path

/-- What stands between the slashes of a path. -/
def parts (p : Path) : List String := (p.toList.splitOn '/').map String.ofList

def ofParts (parts : List String) : Path := String.intercalate "/" parts

/-- The names in a path; empty ones do not count. -/
def names (p : Path) : List String := p.parts.filter (· ≠ "")

/-- Does a part lead further? An empty one and a single dot do not. -/
def isStep (part : String) : Bool := part != "" && part != "."

/-- Drops the last part that leads further, and what follows it, from the parts of a path, the last one first. -/
def dropStep (parts : List String) : List String := (parts.dropWhile (!isStep ·)).drop 1

/-- The number of bytes from which on a path is too long. -/
def maxLength : Nat := 4096

/-- The number of bytes that a name may have. -/
def maxNameLength : Nat := 255

/-- Why a path is refused before it is followed. -/
def fault? (p : Path) : Option OsError :=
  if p.toList.contains '\x00' then some .nulInPath
  else if p = "" then some .notFound
  else if maxLength ≤ p.utf8ByteSize then some .nameTooLong
  else none

def start (p : Path) : Place := if p.toList.head? = some '/' then ["/"] else []

/-- Does the path end with a slash, as only a directory can? -/
def endsWithSlash (p : Path) : Bool := p.toList.getLast? == some '/'

def join (p : Path) (name : String) : Path :=
  if p = "" ∨ p.endsWithSlash then p ++ name else p ++ "/" ++ name

end Path

inductive Entry
  | file (content : String)
  | directory
  deriving DecidableEq, Repr

/-- A file system: what is at each place where something is. -/
structure FileSystem where
  entries : List (Place × Entry) := []

namespace FileSystem

def get? (fs : FileSystem) (p : Place) : Option Entry :=
  if p.isAnchor then some .directory else fs.entries.lookup p

def put (fs : FileSystem) (p : Place) (e : Entry) : FileSystem :=
  ⟨(p, e) :: fs.entries.filter (·.1 ≠ p)⟩

def files (fs : FileSystem) : List (Place × String) :=
  fs.entries.filterMap fun
    | (p, .file content) => some (p, content)
    | (_, .directory) => none

/-- Checks that a place is a directory. -/
def enter (fs : FileSystem) (p : Place) : Except OsError Unit :=
  match fs.get? p with
  | none => .error .notFound
  | some (.file _) => .error .notDirectory
  | some .directory => .ok ()

/-- Follows names from a place; all that is passed on the way has to be a directory. -/
def follow (fs : FileSystem) (p : Place) : List String → Except OsError Place
  | [] => .ok p
  | name :: rest =>
    match fs.enter p with
    | .error e => .error e
    | .ok () => if Path.maxNameLength < name.utf8ByteSize then .error .nameTooLong else fs.follow (p.step name) rest

/-- The place that a path leads to, whether or not something is there. -/
def resolve (fs : FileSystem) (path : Path) : Except OsError Place :=
  match path.fault? with
  | some e => .error e
  | none => fs.follow path.start path.names

/-- What a path leads to. -/
def find (fs : FileSystem) (path : Path) : Except OsError Entry :=
  match fs.resolve path with
  | .error e => .error e
  | .ok p =>
    match fs.get? p with
    | none => .error .notFound
    | some .directory => .ok .directory
    | some (.file content) => if path.endsWithSlash then .error .notDirectory else .ok (.file content)

def exists? (fs : FileSystem) (path : Path) : Bool := (fs.find path).isOk

def read (fs : FileSystem) (path : Path) : Except OsError String :=
  match fs.find path with
  | .error e => .error e
  | .ok .directory => .error .isDirectory
  | .ok (.file content) => .ok content

/-- The place of the file that a path leads to, which need not be there yet. A path that ends with a slash
leads to none, whatever its last name. -/
def resolveFile (fs : FileSystem) (path : Path) : Except OsError Place :=
  if path.endsWithSlash then
    match path.fault? with
    | some e => .error e
    | none => do
      fs.enter (← fs.follow path.start path.names.dropLast)
      throw .isDirectory
  else do
    let p ← fs.resolve path
    if fs.get? p = some .directory then throw .isDirectory else return p

/-- Gives the file at a path a content, and makes the file if there is none. -/
def write (fs : FileSystem) (path : Path) (content : String) : Except OsError FileSystem := do
  return fs.put (← fs.resolveFile path) (.file content)

/-- Makes the directory at a path; the directories on the way have to exist. -/
def makeDirectory (fs : FileSystem) (path : Path) : Except OsError FileSystem :=
  match fs.resolve path with
  | .error e => .error e
  | .ok p => if (fs.get? p).isSome then .error .alreadyExists else .ok (fs.put p .directory)

def isDirectory (fs : FileSystem) (path : Path) : Bool :=
  match fs.find path with
  | .ok .directory => true
  | _ => false

/-- Makes the directory at the path with the parts given, the last one first, and those missing on the way. Each
path on the way ends with a part that leads further. A directory made before an error stays. -/
def makeDirectories (fs : FileSystem) : List String → Except OsError Unit × FileSystem
  | [] => (.ok (), fs)
  | part :: above =>
    if Path.isStep part then
      let path := Path.ofParts (part :: above).reverse
      match fs.makeDirectory path with
      | .ok made => (.ok (), made)
      | .error .notFound =>
        match fs.makeDirectories above with
        | (.error e, made) => (.error e, made)
        | (.ok (), made) =>
          match made.makeDirectory path with
          | .ok all => (.ok (), all)
          | .error e => (if made.isDirectory path then .ok () else .error e, made)
      | .error e => (if fs.isDirectory path then .ok () else .error e, fs)
    else fs.makeDirectories above

def makeParents (fs : FileSystem) (path : Path) : Except OsError Unit × FileSystem :=
  fs.makeDirectories (Path.dropStep path.parts.reverse)

/-! ### What a new entry changes -/

theorem get?_put_self {fs : FileSystem} {p : Place} {e : Entry} (h : p.isAnchor = false) :
    (fs.put p e).get? p = some e := by
  simp [get?, put, h]

theorem lookup_filter_ne {p q : Place} (h : q ≠ p) :
    ∀ es : List (Place × Entry), (es.filter (·.1 ≠ p)).lookup q = es.lookup q
  | [] => rfl
  | (r, e) :: rest => by
    have ih := lookup_filter_ne h rest
    by_cases hr : r = p
    · subst hr
      simp only [ne_eq, decide_not] at ih
      simp [List.lookup_cons, beq_eq_false_iff_ne.mpr h, ih]
    · simp only [ne_eq, decide_not] at ih
      simp [hr, List.lookup_cons, ih]

theorem get?_put_of_ne {fs : FileSystem} {p q : Place} {e : Entry} (h : q ≠ p) :
    (fs.put p e).get? q = fs.get? q := by
  unfold get? put
  split
  · rfl
  · rw [List.lookup_cons, beq_eq_false_iff_ne.mpr h]
    exact lookup_filter_ne h fs.entries

end FileSystem
end AttributeRules
