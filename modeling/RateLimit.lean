import RateLimit.Py
import RateLimit.Value
import RateLimit.Dict
import RateLimit.Ledger
import RateLimit.Parse
import RateLimit.Policy
import RateLimit.Sequential
import RateLimit.Gates
import RateLimit.Race.Step
import RateLimit.Race.Trace
import RateLimit.Race.Quota
import RateLimit.Race.Count
import RateLimit.Provenance
import RateLimit.Review
import RateLimit.Evaluator
import RateLimit.Mention
import RateLimit.ConfigDoc
import RateLimit.Workflows
import RateLimit.Days
