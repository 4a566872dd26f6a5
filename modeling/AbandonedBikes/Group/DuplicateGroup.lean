import AbandonedBikes.Group.IdSet
import AbandonedBikes.Time.Instant
/-!
# Duplicate groups

An operator may declare reports to be duplicates of one canonical report. They form the duplicate
group of that report, which grows by further merges and never shrinks.
-/

namespace AbandonedBikes

/-- A canonical report and the reports that repeat it. -/
structure DuplicateGroup where
  id : Int
  canonical : Int
  merged : IdSet
  createdAt : Instant
  createdBy : String
deriving DecidableEq, Inhabited

/-- The canonical report together with every merged one. -/
def DuplicateGroup.members (group : DuplicateGroup) : IdSet := group.merged.insert group.canonical

/-- What a merge did. -/
structure MergeOutcome where
  group : DuplicateGroup
  /-- Whether the merge opened the group. -/
  created : Bool
  /-- The duplicates that were not members before. -/
  newlyMerged : IdSet
deriving DecidableEq, Inhabited

end AbandonedBikes
