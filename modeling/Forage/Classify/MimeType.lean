/-
**MIME types.**

* `MimeType.ofExtension?` — the type of a file extension, where it is well known;
* `MimeType.same` — whether two types are the same up to parameters and the case of their letters.
-/

import Forage.Text.Blank
import Forage.Text.Lowercase
import Forage.Text.Split

set_option relaxedAutoImplicit false
set_option autoImplicit false

namespace Forage.MimeType

/-- Types by lowercased extension, the dot included. -/
def table : List (String × String) := [
  (".avif", "image/avif"), (".bmp", "image/bmp"), (".css", "text/css"), (".csv", "text/csv"),
  (".gif", "image/gif"), (".gz", "application/gzip"), (".htm", "text/html"),
  (".html", "text/html"), (".ico", "image/vnd.microsoft.icon"), (".jpeg", "image/jpeg"),
  (".jpg", "image/jpeg"), (".js", "text/javascript"), (".json", "application/json"),
  (".md", "text/markdown"), (".mjs", "text/javascript"), (".mp3", "audio/mpeg"),
  (".mp4", "video/mp4"), (".pdf", "application/pdf"), (".png", "image/png"),
  (".py", "text/x-python"), (".sh", "application/x-sh"), (".svg", "image/svg+xml"),
  (".tar", "application/x-tar"), (".txt", "text/plain"), (".wasm", "application/wasm"),
  (".webp", "image/webp"), (".xhtml", "application/xhtml+xml"), (".xml", "text/xml"),
  (".yaml", "application/yaml"), (".yml", "application/yaml"), (".zip", "application/zip")]

def ofExtension? (ext : String) : Option String := table.lookup ext

/-- A type without its parameters. -/
def essence (mime : String) : String :=
  String.ofList (Text.trimChars (mime.toList.takeWhile (· != ';')))

/-- Whether two types are the same up to parameters and the case of ASCII letters. -/
def same (a b : String) : Bool := Text.foldAscii (essence a) == Text.foldAscii (essence b)

end Forage.MimeType
