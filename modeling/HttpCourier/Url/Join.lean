import HttpCourier.Url.Split

/-!
# HttpCourier.Url.Join

**A reference read at a base URL.** A reference without a scheme has that of the base, one
without an authority has that too, and one without a path has the path and, if it has none of
its own, the query of the base. Any other path that does not start with a slash is read from the
directory of the base's path, and dot segments are resolved.

A reference with another scheme stands for itself, and so does any reference where the scheme is
none that knows relative references.
-/

namespace HttpCourier.Url

/-- The schemes that know relative references. -/
def relativeSchemes : List Text :=
  [[], "ftp", "http", "gopher", "nntp", "imap", "wais", "file", "https", "shttp", "mms",
   "prospero", "rtsp", "rtsps", "rtspu", "sftp", "svn", "svn+ssh", "ws", "wss"]

/-- The schemes that write an authority even where it is empty. -/
def authoritySchemes : List Text :=
  ["ftp", "http", "gopher", "nntp", "telnet", "imap", "wais", "file", "mms", "https", "shttp",
   "snews", "prospero", "rtsp", "rtsps", "rtspu", "rsync", "svn", "svn+ssh", "sftp", "nfs", "git",
   "git+ssh", "ws", "wss"]

/-- The schemes whose last path segment can end in parameters. -/
def parameterSchemes : List Text :=
  [[], "ftp", "hdl", "prospero", "http", "imap", "https", "shttp", "rtsp", "rtsps", "rtspu", "sip",
   "sips", "mms", "sftp", "tel"]

/-- The path and the parameters of its last segment. -/
def splitParameters (scheme path : Text) : Text × Text :=
  if parameterSchemes.contains scheme then
    let (directory, last) := match Text.splitLast? '/' path with
      | some (directory, last) => (directory ++ [CodePoint.ofChar '/'], last)
      | none => ([], path)
    match Text.splitFirst? ';' last with
    | some (segment, parameters) => (directory ++ segment, parameters)
    | none => (path, [])
  else (path, [])

/-- The text of parts. -/
def Split.text (s : Split) : Text :=
  let path :=
    if s.authority ≠ [] ∨ authoritySchemes.contains s.scheme ∨ Text.startsWith s.path "//" then
      Text.ofString "//" ++ s.authority ++
        (if s.path ≠ [] ∧ s.path.head? ≠ some (CodePoint.ofChar '/')
          then CodePoint.ofChar '/' :: s.path else s.path)
    else s.path
  (if s.scheme = [] then [] else s.scheme ++ [CodePoint.ofChar ':']) ++ path ++
    (if s.query = [] then [] else CodePoint.ofChar '?' :: s.query) ++
    (if s.fragment = [] then [] else CodePoint.ofChar '#' :: s.fragment)

/-- One segment more of a path that is being resolved. -/
def joinSegment (done : List Text) (segment : Text) : List Text :=
  if segment = [CodePoint.ofChar '.', CodePoint.ofChar '.'] then done.dropLast
  else if segment = [CodePoint.ofChar '.'] then done
  else done ++ [segment]

/-- Whether a segment is one or two dots. -/
def isDots (segment : Text) : Bool :=
  segment = [CodePoint.ofChar '.'] || segment = [CodePoint.ofChar '.', CodePoint.ofChar '.']

/-- Segments without the empty ones between the first and the last. -/
def withoutInnerGaps (segments : List Text) : List Text :=
  match segments with
  | [] => []
  | first :: rest => first :: ((rest.dropLast.filter (· ≠ [])) ++ rest.getLast?.toList)

/-- The path of a reference, which is not empty, read at the path of the base. -/
def joinPath (base path : Text) : Text :=
  let segments :=
    if path.head? = some (CodePoint.ofChar '/') then Text.splitOn '/' path
    else
      let directory := Text.splitOn '/' base
      let directory := if directory.getLast? = some [] then directory else directory.dropLast
      withoutInnerGaps (directory ++ Text.splitOn '/' path)
  let resolved := segments.foldl joinSegment []
  let resolved := if segments.getLast?.any isDots then resolved ++ [[]] else resolved
  let joined := Text.join [CodePoint.ofChar '/'] resolved
  if joined = [] then [CodePoint.ofChar '/'] else joined

/-- The URL that a reference names at a base. -/
def join (base reference : Text) : Except SplitError Text := do
  if base = [] then return reference
  if reference = [] then return base
  let b ← split base
  let r ← split reference
  let scheme := if r.scheme = [] then b.scheme else r.scheme
  if scheme ≠ b.scheme ∨ !relativeSchemes.contains scheme then return reference
  if r.authority ≠ [] then return Split.text { r with scheme }
  let (path, parameters) := splitParameters scheme r.path
  if path = [] ∧ parameters = [] then
    let query := if r.query = [] then b.query else r.query
    return Split.text ⟨scheme, b.authority, b.path, query, r.fragment⟩
  else
    let joined := joinPath (splitParameters scheme b.path).1 path
    let joined := if parameters = [] then joined
      else joined ++ [CodePoint.ofChar ';'] ++ parameters
    return Split.text ⟨scheme, b.authority, joined, r.query, r.fragment⟩

end HttpCourier.Url
