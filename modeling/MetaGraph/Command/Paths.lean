/-
The files and directories that a job may touch.
-/
import MetaGraph.Config.Tree

namespace MetaGraph.Command

/-- The settings that name a file or a directory. -/
def pathSettings : List String := [
  "extractor.csv.file_location",
  "loader.filesystem_csv.node_dir_path",
  "loader.filesystem_csv.relationship_dir_path",
  "publisher.cypher.node_files_directory",
  "publisher.cypher.relation_files_directory",
  "publisher.cypher.output_path"]

/-- The paths that the settings of a job name. -/
def pathsOf (c : JobConfig) : List String :=
  pathSettings.filterMap fun path =>
    match c.find? path with
    | some (.text s) => some s
    | _ => none

/-- The places on the way along the steps of a path, from a directory on. -/
def placesAlong (p : Place) : List String → List Place
  | [] => [p]
  | step :: rest =>
    let next := if step = "." then p else if step = ".." then p.dropLast else p ++ [step]
    p :: placesAlong next rest

/-- The places that a path leads through, seen from a working directory. -/
def placesOf (home : Place) (path : String) : List Place :=
  if Path.isAbsolute path then placesAlong [] (Path.components path)
  else placesAlong home (Path.components path)

/-- The path of a place. -/
def pathOfPlace (p : Place) : String := "/" ++ "/".intercalate p

end MetaGraph.Command
