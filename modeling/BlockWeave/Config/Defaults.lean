import BlockWeave.Value.Basic

/-! # Settings that are always there

The lowest layer of every configuration. -/

namespace BlockWeave.Config

/-- The extensions of files that are taken as bytes. -/
def defaultExtensions : List String :=
  ["png", "jpeg", "jpg", "mp3", "ogg", "gif", "eot", "ttf", "woff"]

/-- The settings of builds. -/
def defaultBuild : Fields := [
  (.str "clean", .bool true),
  (.str "remove", .str "debug,test"),
  (.str "trigger", .str "release"),
  (.str "encoding", .str "utf-8"),
  (.str "binary_extensions", .list (defaultExtensions.map .str))]

/-- The settings of all parts of the program. -/
def defaults : Fields := [
  (.str "build", .map defaultBuild),
  (.str "logging", .map [(.str "level", .str "WARNING")])]

end BlockWeave.Config
