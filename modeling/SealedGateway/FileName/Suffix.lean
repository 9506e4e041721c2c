import SealedGateway.FileName.Locator

/-!
# Guessing a media type

The media type of a file is guessed from the suffix of its name.  Suffixes of compression are
taken off first; a leading run of dots is no suffix.  A name that is a locator counts by its
path, and an inline one names its type itself.
-/

namespace SealedGateway
namespace FileName

/-- The media types with their suffixes. -/
def suffixTable : List (String × List String) :=
  [
    ("application/javascript", ["js", "mjs"]), ("application/json", ["json"]),
    ("application/manifest+json", ["webmanifest"]), ("application/msword", ["doc", "dot", "wiz"]),
    ("application/n-quads", ["nq"]), ("application/n-triples", ["nt"]),
    ("application/octet-stream", ["bin", "a", "dll", "exe", "o", "obj", "so"]),
    ("application/oda", ["oda"]), ("application/pdf", ["pdf"]),
    ("application/pkcs7-mime", ["p7c"]), ("application/postscript", ["ps", "ai", "eps"]),
    ("application/trig", ["trig"]), ("application/vnd.apple.mpegurl", ["m3u", "m3u8"]),
    ("application/vnd.ms-excel", ["xls", "xlb"]),
    ("application/vnd.ms-powerpoint", ["ppt", "pot", "ppa", "pps", "pwz"]),
    ("application/wasm", ["wasm"]), ("application/x-bcpio", ["bcpio"]),
    ("application/x-cpio", ["cpio"]), ("application/x-csh", ["csh"]),
    ("application/x-dvi", ["dvi"]), ("application/x-gtar", ["gtar"]),
    ("application/x-hdf", ["hdf"]), ("application/x-hdf5", ["h5"]),
    ("application/x-latex", ["latex"]), ("application/x-mif", ["mif"]),
    ("application/x-netcdf", ["cdf", "nc"]), ("application/x-pkcs12", ["p12", "pfx"]),
    ("application/x-pn-realaudio", ["ram"]), ("application/x-python-code", ["pyc", "pyo"]),
    ("application/x-sh", ["sh"]), ("application/x-shar", ["shar"]),
    ("application/x-shockwave-flash", ["swf"]), ("application/x-sv4cpio", ["sv4cpio"]),
    ("application/x-sv4crc", ["sv4crc"]), ("application/x-tar", ["tar"]),
    ("application/x-tcl", ["tcl"]), ("application/x-tex", ["tex"]),
    ("application/x-texinfo", ["texi", "texinfo"]), ("application/x-troff", ["roff", "t", "tr"]),
    ("application/x-troff-man", ["man"]), ("application/x-troff-me", ["me"]),
    ("application/x-troff-ms", ["ms"]), ("application/x-ustar", ["ustar"]),
    ("application/x-wais-source", ["src"]), ("application/xml", ["xsl", "rdf", "wsdl", "xpdl"]),
    ("application/zip", ["zip"]), ("audio/3gpp", ["3gp", "3gpp"]),
    ("audio/3gpp2", ["3g2", "3gpp2"]), ("audio/aac", ["aac", "adts", "loas", "ass"]),
    ("audio/basic", ["au", "snd"]), ("audio/mpeg", ["mp3", "mp2"]), ("audio/opus", ["opus"]),
    ("audio/x-aiff", ["aif", "aifc", "aiff"]), ("audio/x-pn-realaudio", ["ra"]),
    ("audio/x-wav", ["wav"]), ("image/avif", ["avif"]), ("image/bmp", ["bmp"]),
    ("image/gif", ["gif"]), ("image/ief", ["ief"]), ("image/jpeg", ["jpg", "jpe", "jpeg"]),
    ("image/heic", ["heic"]), ("image/heif", ["heif"]), ("image/png", ["png"]),
    ("image/svg+xml", ["svg"]), ("image/tiff", ["tiff", "tif"]),
    ("image/vnd.microsoft.icon", ["ico"]), ("image/x-cmu-raster", ["ras"]),
    ("image/x-portable-anymap", ["pnm"]), ("image/x-portable-bitmap", ["pbm"]),
    ("image/x-portable-graymap", ["pgm"]), ("image/x-portable-pixmap", ["ppm"]),
    ("image/x-rgb", ["rgb"]), ("image/x-xbitmap", ["xbm"]), ("image/x-xpixmap", ["xpm"]),
    ("image/x-xwindowdump", ["xwd"]), ("message/rfc822", ["eml", "mht", "mhtml", "nws"]),
    ("text/css", ["css"]), ("text/csv", ["csv"]), ("text/html", ["html", "htm"]),
    ("text/n3", ["n3"]), ("text/plain", ["txt", "bat", "c", "h", "ksh", "pl", "srt"]),
    ("text/richtext", ["rtx"]), ("text/tab-separated-values", ["tsv"]), ("text/vtt", ["vtt"]),
    ("text/x-python", ["py"]), ("text/x-setext", ["etx"]), ("text/x-sgml", ["sgm", "sgml"]),
    ("text/x-vcard", ["vcf"]), ("text/xml", ["xml"]), ("video/mp4", ["mp4"]),
    ("video/mpeg", ["mpeg", "m1v", "mpa", "mpe", "mpg"]), ("video/quicktime", ["mov", "qt"]),
    ("video/webm", ["webm"]), ("video/x-msvideo", ["avi"]), ("video/x-sgi-movie", ["movie"])]

/-- The suffixes that stand for a suffix and a compression. -/
def contractions : List (String × String) :=
  [("svgz", "svg"), ("tgz", "tar"), ("taz", "tar"), ("tz", "tar"), ("tbz2", "tar"), ("txz", "tar")]

/-- The suffixes of compressed files. -/
def compressions : List String := ["gz", "Z", "bz2", "xz", "br"]

/-- The character U+212A, whose lower case is an ASCII letter. -/
def kelvinSign : Nat := 0x212A

/-- The lower case of a character, as far as suffixes need it. -/
def lowerChar (char : Char) : Char :=
  if char.toNat = kelvinSign then 'k' else Numeral.lowerAscii char

/-- The base and the suffix of a path: the suffix stands behind the last dot of the last segment,
unless only dots stand before that dot. -/
def splitSuffix (path : List Char) : List Char × Option (List Char) :=
  let (folder, segment) := match Text.cutLast? '/' path with
    | some (folder, segment) => (folder ++ ['/'], segment)
    | none => ([], path)
  match Text.cutLast? '.' segment with
  | some (base, suffix) =>
    if base.all (· = '.') then (path, none) else (folder ++ base, some suffix)
  | none => (path, none)

/-- The media type of a suffix in any case. -/
def typeOfSuffix? (suffix : List Char) : Option String :=
  let lowered := String.ofList (suffix.map lowerChar)
  (suffixTable.find? fun entry => entry.2.contains lowered).map Prod.fst

/-- The media type that the suffixes of a path tell. -/
def typeOfPath? (path : List Char) : Option String :=
  match splitSuffix path with
  | (_, none) => none
  | (base, some suffix) =>
    let lowered := String.ofList (suffix.map lowerChar)
    match contractions.find? fun entry => entry.1 = lowered with
    | some (_, inner) => typeOfSuffix? inner.toList
    | none =>
      if compressions.contains (String.ofList suffix) then (splitSuffix base).2.bind typeOfSuffix?
      else typeOfSuffix? suffix

/-- The media type that an inline locator names; plain text if it names none. -/
def inlineType? (path : List Char) : Option String :=
  (Text.cutFirst? ',' path).map fun (header, _) =>
    let named := Text.before ';' header
    if named.contains '=' || !named.contains '/' then "text/plain" else String.ofList named

/-- The media type that the name of a file tells, if it tells one. -/
def guessType? (name : String) : Except ValueFault (Option String) :=
  match Locator.read name.toList with
  | .error fault => .error fault
  | .ok locator =>
    if locator.scheme.length ≤ 1 then .ok (typeOfPath? name.toList)
    else if locator.scheme = "data".toList then .ok (inlineType? locator.path)
    else .ok (typeOfPath? locator.path)

end FileName
end SealedGateway
