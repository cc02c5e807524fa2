import ReleaseLine.Duration

namespace ReleaseLine

structure Timeouts where
  connect : Duration := .ofSeconds 1 0
  /-- How long the head of the response may take to come, once connected. -/
  firstByte : Duration := .ofSeconds 2 0
  endToEnd : Duration := .ofSeconds 2 0
deriving DecidableEq

end ReleaseLine
