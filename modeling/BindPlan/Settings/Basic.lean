import BindPlan.Statement.Writer
import BindPlan.Template.Cache

namespace BindPlan

structure Settings where
  dialect : Dialect := .postgres
  /-- The number of templates that are kept. None are kept if it is zero. -/
  cacheCapacity : Nat := TemplateCache.defaultCapacity
  options : WriteOptions := {}
deriving DecidableEq, Repr

end BindPlan
