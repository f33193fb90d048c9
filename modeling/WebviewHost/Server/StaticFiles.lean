import WebviewHost.Http.Message
import WebviewHost.Text.Percent

/-!
# Static files

The files below a root directory, by the raw path of a request. A path is taken apart at its
slashes before anything is decoded, and a part that is more than a name is refused, so that no
path leads out of the root.
-/

set_option autoImplicit false

namespace WebviewHost.Server

open WebviewHost.Files (Cause Disk joinPath splitAt)
open WebviewHost.Http (Response contentLength)
open WebviewHost.Text (percentDecode?)

def notFoundPage : String := "404.html"

def indexPage : String := "index.html"

/-- What one part of a path adds: nothing, a name, or a refusal. -/
inductive Segment where
  | skipped
  | name (name : String)
  | refused
  deriving DecidableEq, Repr

def segment (raw : List Char) : Segment :=
  match percentDecode? raw with
  | none => .refused
  | some name =>
      if name = "" || name = "." then .skipped
      else if name = ".." || name.toList.any (fun c => c = '/' || c = '\\' || c = '\x00') then
        .refused
      else .name name

/-- The names that parts of a path add up to, unless one of the parts is refused. -/
def namesOf? : List (List Char) → Option (List String)
  | [] => some []
  | raw :: rest =>
      match segment raw with
      | .refused => none
      | .skipped => namesOf? rest
      | .name name => (namesOf? rest).map (name :: ·)

/-- The file a raw path stands for, which need not be there. -/
def resolve? (root path : String) : Option String :=
  (namesOf? (splitAt '/' path.toList)).map fun names => names.foldl joinPath root

/-! ## Content types -/

def contentTypes : List (String × String) :=
  [("html", "text/html; charset=utf-8"), ("htm", "text/html; charset=utf-8"),
    ("js", "text/javascript; charset=utf-8"), ("mjs", "text/javascript; charset=utf-8"),
    ("css", "text/css; charset=utf-8"), ("json", "application/json"),
    ("map", "application/json"), ("svg", "image/svg+xml"), ("png", "image/png"),
    ("jpg", "image/jpeg"), ("jpeg", "image/jpeg"), ("gif", "image/gif"),
    ("ico", "image/x-icon"), ("webp", "image/webp"), ("woff", "font/woff"),
    ("woff2", "font/woff2"), ("txt", "text/plain; charset=utf-8"), ("wasm", "application/wasm")]

/-- The extension of a file name: what follows its last dot, if something precedes that dot. -/
def extension? (name : List Char) : Option (List Char) :=
  let parts := splitAt '.' name
  match parts.getLast?, parts.dropLast with
  | some last, first :: others =>
      if name = ['.', '.'] || (first.isEmpty && others.isEmpty) then none else some last
  | _, _ => none

/-- The last name in a path, single dots apart. -/
def fileName (path : String) : List Char :=
  (((Files.pathNames path).filter (· ≠ ".")).getLast?.getD "").toList

def contentType (file : String) : String :=
  let known := (extension? (fileName file)).bind fun ending =>
    contentTypes.lookup (String.ofList (ending.map Char.toLower))
  known.getD "application/octet-stream"

/-! ## Serving -/

/-- The file that answers for a path, with its content: the file there, or the index page if there
is a directory. -/
def pageAt? (unread : String → Option Cause) (disk : Disk) (path : String) :
    Option (String × ByteArray) :=
  let file := if disk.isDirectory path then joinPath path indexPage else path
  (disk.tryReadFile unread file).toOption.map (file, ·)

/-- A response with the content of a file, or just about it if the method asks for no more. -/
def fileResponse (status : Nat) (method file : String) (content : ByteArray) : Response where
  status := status
  headers := [.ofText "content-type" (contentType file), contentLength content.size]
  body := .whole (if method = "HEAD" then .empty else content)

/-- The response for a path without a file: the page for that, if the root has one. -/
def notFound (unread : String → Option Cause) (disk : Disk) (root method : String) : Response :=
  let page := joinPath root notFoundPage
  match disk.tryReadFile unread page with
  | .ok content => fileResponse 404 method page content
  | .error _ => .empty 404 []

/-- Serve a raw path from a root directory, while some files, by their paths, cannot be read. Files
can be fetched and asked about, nothing else. -/
def tryServeFile (unread : String → Option Cause) (disk : Disk) (root method path : String) :
    Response :=
  if method ≠ "GET" && method ≠ "HEAD" then .empty 405 [.ofText "allow" "GET, HEAD"]
  else
    match (resolve? root path).bind (pageAt? unread disk) with
    | some (file, content) => fileResponse 200 method file content
    | none => notFound unread disk root method

def serveFile (disk : Disk) (root method path : String) : Response :=
  tryServeFile (fun _ => none) disk root method path

end WebviewHost.Server
