import TableTypes.Unicode.CaseMapping
import TableTypes.Unicode.Clusters
import TableTypes.Unicode.Numeric

/-!
# Words of a name

A reported name is split into words at every character that is neither a letter nor a
digit, and where the letter case changes or letters meet digits. A run of capitals
followed by a lower case letter gives its last capital to the next word.
-/

namespace TableTypes
namespace Casing

/-- How a cluster takes part in the splitting of words. -/
inductive ClusterKind where
  | separator
  | upper
  | lower
  | digit
  | other
  deriving DecidableEq, Repr

namespace ClusterKind

/-- The kind of a cluster. Letters without case are neither upper nor lower. -/
def ofCluster (cluster : List Char) : ClusterKind :=
  if cluster = ['_'] then .separator
  else if cluster.all Char.isDigit then .digit
  else
    let upperCase := Unicode.uppercase cluster
    let lowerCase := Unicode.lowercase cluster
    if upperCase = lowerCase then .other
    else if cluster = upperCase then .upper
    else if cluster = lowerCase then .lower
    else .other

/-- A word ends between the first cluster and the second; the third settles a run of
capitals. -/
def endsWord : ClusterKind -> ClusterKind -> Option ClusterKind -> Bool
  | .lower, .upper, _ => true
  | .lower, .digit, _ => true
  | .upper, .digit, _ => true
  | .digit, .lower, _ => true
  | .digit, .upper, _ => true
  | .upper, .upper, some .lower => true
  | _, _, _ => false

end ClusterKind

/-- A word ends after the cluster, given what follows it. -/
def cutsAfter (cluster : List Char) : List (List Char) -> Bool
  | [] => false
  | next :: following =>
      (ClusterKind.ofCluster cluster).endsWord (ClusterKind.ofCluster next)
        (following.head?.map ClusterKind.ofCluster)

/-- The words of a list of clusters. Separators are dropped, and every separator ends a
word even when the word is empty. -/
def wordsOfClusters : List (List Char) -> List (List Char)
  | [] => [[]]
  | cluster :: rest =>
      if ClusterKind.ofCluster cluster = .separator then
        [] :: wordsOfClusters rest
      else if cutsAfter cluster rest then
        cluster :: wordsOfClusters rest
      else
        match wordsOfClusters rest with
        | [] => [cluster]
        | word :: words => (cluster ++ word) :: words

/-- There is always a first word, if only an empty one. -/
theorem wordsOfClusters_ne_nil (parts : List (List Char)) :
    wordsOfClusters parts ≠ [] := by
  cases parts with
  | nil => simp [wordsOfClusters]
  | cons cluster rest =>
      rw [wordsOfClusters]
      split
      · simp
      · split
        · simp
        · split <;> simp

/-- Replace every character that is neither a letter nor a digit by a separator. -/
def separate (name : List Char) : List Char :=
  name.map fun c => if Unicode.isAlphanumeric c then c else '_'

/-- The words of a name. -/
def words (name : List Char) : List (List Char) :=
  wordsOfClusters (Unicode.clusters (separate name))

/-- A word with its first character in upper case and the remainder in lower case. -/
def capitalize : List Char -> List Char
  | [] => []
  | c :: rest => Unicode.upperForm c ++ Unicode.lowercase rest

end Casing
end TableTypes
