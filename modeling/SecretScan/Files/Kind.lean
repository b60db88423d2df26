import SecretScan.Path

/-!
# Files worth reading

Whether a file is read at all depends on its size and on the extension of its name: a file
without one is read, and so is one whose extension is known to be that of text.
-/

namespace SecretScan.Files

/-- Extensions of files that are never text. -/
def binaryExtensions : List String :=
  ["png", "jpg", "jpeg", "gif", "bmp", "ico", "webp", "tiff", "psd", "mp3", "mp4", "mov", "avi",
   "wav", "flac", "ogg", "webm", "zip", "tar", "gz", "tgz", "bz2", "xz", "7z", "rar", "jar",
   "war", "exe", "dll", "so", "dylib", "a", "o", "obj", "class", "pyc", "wasm", "bin", "dat",
   "db", "sqlite", "pdf", "doc", "docx", "xls", "xlsx", "ppt", "pptx", "woff", "woff2", "ttf",
   "otf", "eot", "iso", "dmg"]

/-- Extensions of files that are read. -/
def textExtensions : List String :=
  ["txt", "md", "rst", "adoc", "env", "ini", "cfg", "conf", "config", "properties", "toml",
   "yaml", "yml", "json", "jsonc", "xml", "plist", "tf", "tfvars", "hcl", "sh", "bash", "zsh",
   "fish", "ps1", "bat", "cmd", "py", "rb", "pl", "php", "js", "mjs", "cjs", "jsx", "ts", "tsx",
   "vue", "svelte", "go", "rs", "java", "kt", "kts", "scala", "groovy", "gradle", "swift", "m",
   "c", "h", "cc", "cpp", "hpp", "cs", "fs", "dart", "lua", "r", "ex", "exs", "erl", "clj",
   "sql", "html", "htm", "css", "scss", "less", "ipynb", "log", "csv", "pem", "key", "crt",
   "npmrc", "pypirc", "netrc", "dockerfile", "example", "sample", "local", "dev", "prod",
   "staging"]

/-- Is a file of this size worth reading? -/
def isScannable (path : String) (size maxSize : Nat) : Bool :=
  if maxSize < size then false
  else
    match Path.extension? path with
    | none => true
    | some ext =>
      let ext := Text.asciiLower ext
      !binaryExtensions.contains ext && textExtensions.contains ext

end SecretScan.Files
